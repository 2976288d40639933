import MotionFirmware.Control.ClockShift
import MotionFirmware.Safety.SafetyHistory

/-!
# Shifted times in the safety manager

Adding a constant to every time that the safety manager is given leaves all its decisions as they
are: it uses times in differences only.  The times that it has stored are shifted by the constant.
Which of them have been set can be read off the record for some (a fault has a code, a seek has a
result, a task has been seen); the start of a candidate and the time of a latch stay behind when the
candidate or the latch is gone, and are followed through the history.
-/

namespace MotionFirmware

/-- The record of a fault with its time shifted; there is none to shift without a fault. -/
def FaultRecord.shift (c : UInt32) (r : FaultRecord) : FaultRecord :=
  { r with timestampMs := if r.code = .none then r.timestampMs else r.timestampMs + c }

/-- The fault manager with the times of its records shifted. -/
def FaultManager.shift (c : UInt32) (m : FaultManager) : FaultManager where
  active := m.active.shift c
  history := m.history.shift c

/-- The arguments of an evaluation at a shifted time. -/
def Evaluation.shift (c : UInt32) (e : Evaluation) : Evaluation :=
  { e with now := e.now + c, motion := e.motion.shift c }

/-- The manager with shifted times; the start of the candidate, the time of the latch and the time
of zero output are given. -/
def SafetyManager.shift (c start detection zero : UInt32) (s : SafetyManager) : SafetyManager :=
  { s with
    faults := s.faults.shift c
    startupMs := s.startupMs + c
    candidateStartMs := start
    detectionMs := detection
    zeroMs := zero }

/-- The second manager is the first one with every time shifted that has been set, the time of zero
output excepted.  `P` and `Q` say that the start of a candidate and the time of a latch have been
set before. -/
structure SafetyManager.Shifted (c : UInt32) (P Q : Prop) (s s' : SafetyManager) : Prop where
  rest : s' = s.shift c s'.candidateStartMs s'.detectionMs s'.zeroMs
  candidate : P ∨ s.candidate = true → s'.candidateStartMs = s.candidateStartMs + c
  detection : Q ∨ s.state ≠ .idle → s'.detectionMs = s.detectionMs + c

variable {k : UInt32} {P Q : Prop} {s s' : SafetyManager} {c : Evaluation} {code : FaultCode}
  {now source : UInt32}

@[simp] lemma Evaluation.shift_valid : (c.shift k).valid = c.valid := rfl

@[simp] lemma Evaluation.shift_inputs : (c.shift k).inputs = c.inputs := rfl

@[simp] lemma Evaluation.shift_now : (c.shift k).now = c.now + k := rfl

@[simp] lemma SafetyManager.shift_state {start detection zero : UInt32} :
    (s.shift k start detection zero).state = s.state := rfl

@[simp] lemma SafetyManager.shift_faults {start detection zero : UInt32} :
    (s.shift k start detection zero).faults = s.faults.shift k := rfl

@[simp] lemma SafetyManager.shift_candidate {start detection zero : UInt32} :
    (s.shift k start detection zero).candidate = s.candidate := rfl

/-! ### The elementary operations -/

/-- A fault that is raised at a shifted time is recorded with it. -/
lemma faultRaise_shift (m : FaultManager) :
    faultRaise (m.shift k) code (now + k) source = (faultRaise m code now source).shift k := by
  unfold faultRaise
  by_cases h : m.active.code = .none ∧ code ≠ .none
  · rw [if_pos h, if_pos (by exact h)]
    simp [FaultManager.shift, FaultRecord.shift, h.2]
  · rw [if_neg h, if_neg (by exact h)]

/-- The shifted manager as an explicit value. -/
lemma SafetyManager.Shifted.exists_eq (h : s.Shifted k P Q s') :
    ∃ start detection zero, s' = s.shift k start detection zero ∧
      (P ∨ s.candidate = true → start = s.candidateStartMs + k) ∧
      (Q ∨ s.state ≠ .idle → detection = s.detectionMs + k) :=
  ⟨_, _, _, h.rest, h.candidate, h.detection⟩

lemma SafetyManager.Shifted.state_eq (h : s.Shifted k P Q s') : s'.state = s.state := by
  rw [h.rest]
  rfl

/-- A trip at a shifted time. -/
lemma SafetyManager.Shifted.trip (h : s.Shifted k P Q s') :
    (trip s code now source).Shifted k P Q (trip s' code (now + k) source) := by
  obtain ⟨start, detection, zero, rfl, hstart, hdetection⟩ := h.exists_eq
  have hfaults : faultRaise (s.faults.shift k) code (now + k) source =
      (faultRaise s.faults code now source).shift k := faultRaise_shift s.faults
  unfold MotionFirmware.trip
  rw [SafetyManager.shift_faults, SafetyManager.shift_state, hfaults]
  dsimp only
  split_ifs
  · exact ⟨rfl, hstart, fun _ => rfl⟩
  · exact ⟨rfl, hstart, hdetection⟩

/-- An E-stop at a shifted time. -/
lemma SafetyManager.Shifted.estop (h : s.Shifted k P Q s') :
    (safetyEstop s now).Shifted k P Q (safetyEstop s' (now + k)) := by
  obtain ⟨start, detection, zero, rfl, hstart, hdetection⟩ := h.exists_eq
  unfold safetyEstop
  rw [SafetyManager.shift_state]
  by_cases hestop : s.state ≠ .estop
  · rw [if_pos hestop, if_pos hestop]
    exact ⟨rfl, hstart, fun _ => rfl⟩
  · rw [if_neg hestop, if_neg hestop]
    refine ⟨rfl, hstart, fun _ => hdetection (Or.inr ?_)⟩
    rw [not_not.mp hestop]
    exact nofun

/-- An internal fault at a shifted time. -/
lemma SafetyManager.Shifted.internalFault (h : s.Shifted k P Q s') :
    (safetyInternalFault s now).Shifted k P Q (safetyInternalFault s' (now + k)) := by
  refine SafetyManager.Shifted.trip ?_
  obtain ⟨start, detection, zero, rfl, hstart, hdetection⟩ := h.exists_eq
  exact ⟨rfl, hstart, hdetection⟩

/-- A homing timeout at a shifted time. -/
lemma SafetyManager.Shifted.homingTimeout (h : s.Shifted k P Q s') :
    (safetyHomingTimeout s now).Shifted k P Q (safetyHomingTimeout s' (now + k)) :=
  h.trip

/-! ### The checks of an evaluation -/

lemma SafetyManager.Shifted.recordInputs (h : s.Shifted k P Q s') :
    (recordInputs s c).Shifted k P Q (recordInputs s' (c.shift k)) := by
  obtain ⟨start, detection, zero, rfl, hstart, hdetection⟩ := h.exists_eq
  exact ⟨rfl, hstart, hdetection⟩

lemma SafetyManager.Shifted.checkValid (h : s.Shifted k P Q s') :
    (checkValid s c).Shifted k P Q (checkValid s' (c.shift k)) := by
  unfold MotionFirmware.checkValid
  rw [Evaluation.shift_valid]
  split_ifs
  · exact h.internalFault
  · exact h

lemma SafetyManager.Shifted.checkEstop (h : s.Shifted k P Q s') :
    (checkEstop s c).Shifted k P Q (checkEstop s' (c.shift k)) := by
  unfold MotionFirmware.checkEstop
  rw [Evaluation.shift_inputs]
  split_ifs
  · exact h.estop
  · exact h

lemma SafetyManager.Shifted.checkPositive (h : s.Shifted k P Q s') :
    (checkPositive s c).Shifted k P Q (checkPositive s' (c.shift k)) := by
  unfold MotionFirmware.checkPositive
  rw [Evaluation.shift_inputs]
  split_ifs
  · exact h.trip
  · exact h

lemma SafetyManager.Shifted.checkRelease (h : s.Shifted k P Q s') :
    (checkRelease s c).Shifted k P Q (checkRelease s' (c.shift k)) := by
  unfold MotionFirmware.checkRelease
  rw [Evaluation.shift_valid, Evaluation.shift_inputs]
  split_ifs
  · obtain ⟨start, detection, zero, rfl, hstart, hdetection⟩ := h.exists_eq
    exact ⟨rfl, hstart, hdetection⟩
  · exact h

lemma SafetyManager.Shifted.checkNegative (h : s.Shifted k P Q s') :
    (checkNegative s c).Shifted k P Q (checkNegative s' (c.shift k)) := by
  have hsame : unexpectedNegative s' (c.shift k) = unexpectedNegative s c := by
    rw [h.rest]
    rfl
  unfold MotionFirmware.checkNegative
  rw [hsame]
  split_ifs
  · exact h.trip
  · exact h

lemma SafetyManager.Shifted.checkWatchdog (h : s.Shifted k P Q s') :
    (checkWatchdog s c).Shifted k P Q (checkWatchdog s' (c.shift k)) := by
  have hsame : supervisionFailed s' (c.shift k) = supervisionFailed s c := by
    have hgrace := WrappingClock.add_sub_add_right c.now s.startupMs k
    rw [h.rest]
    simp only [supervisionFailed, SafetyManager.shift, Evaluation.shift, hgrace]
  unfold MotionFirmware.checkWatchdog
  rw [hsame]
  split_ifs
  · exact h.trip
  · exact h

lemma SafetyManager.Shifted.checkRecovery (h : s.Shifted k P Q s') :
    (checkRecovery s c).Shifted k P Q (checkRecovery s' (c.shift k)) := by
  have hsame : recovered s' (c.shift k) = recovered s c := by
    rw [h.rest]
    rfl
  unfold MotionFirmware.checkRecovery
  rw [hsame]
  split_ifs
  · obtain ⟨start, detection, zero, rfl, hstart, hdetection⟩ := h.exists_eq
    exact ⟨rfl, hstart, hdetection⟩
  · exact h

/-- The hazard checks at a shifted time. -/
lemma SafetyManager.Shifted.checkHazards (h : s.Shifted k P Q s') :
    (checkHazards s c).Shifted k P Q (checkHazards s' (c.shift k)) :=
  h.recordInputs.checkValid.checkEstop.checkPositive.checkRelease.checkNegative.checkWatchdog
    |>.checkRecovery

variable [Rounding]

/-- The no-motion detector measures the same time. -/
lemma SafetyManager.Shifted.checkStall (h : s.Shifted k P Q s') (contact : AppState) :
    (checkStall s c contact).Shifted k P Q (checkStall s' (c.shift k) contact) := by
  obtain ⟨start, detection, zero, rfl, hstart, hdetection⟩ := h.exists_eq
  have hsame : qualifying (s.shift k start detection zero) (c.shift k) contact =
      qualifying s c contact := rfl
  have hcandidate : candidateStart (s.shift k start detection zero) (c.shift k) =
      candidateStart s c + k := by
    unfold candidateStart
    rw [SafetyManager.shift_candidate]
    split_ifs with hrunning
    · exact hstart (Or.inr hrunning)
    · rfl
  have helapsed := WrappingClock.add_sub_add_right c.now (candidateStart s c) k
  have hrun : SafetyManager.Shifted k P Q
      { s with
        candidate := true
        candidateStartMs := candidateStart s c
        candidateMs := c.now - candidateStart s c }
      { s.shift k start detection zero with
        candidate := true
        candidateStartMs := candidateStart s c + k
        candidateMs := c.now - candidateStart s c } :=
    ⟨rfl, fun _ => rfl, hdetection⟩
  unfold MotionFirmware.checkStall
  rw [hsame, hcandidate, Evaluation.shift_now, helapsed]
  split_ifs
  · dsimp only
    split_ifs
    · refine SafetyManager.Shifted.trip ?_
      exact ⟨rfl, fun _ => rfl, hdetection⟩
    · exact hrun
  · exact ⟨rfl, fun h => hstart (h.imp_right fun h => absurd h nofun), hdetection⟩

omit [Rounding] in
lemma SafetyManager.Shifted.recordCondition (h : s.Shifted k P Q s') :
    (recordCondition s c).Shifted k P Q (recordCondition s' (c.shift k)) := by
  obtain ⟨start, detection, zero, rfl, hstart, hdetection⟩ := h.exists_eq
  exact ⟨rfl, hstart, hdetection⟩

/-- **An evaluation at a shifted time** decides the same. -/
theorem SafetyManager.Shifted.safetyEvaluate (h : s.Shifted k P Q s') :
    (safetyEvaluate s c).Shifted k P Q (safetyEvaluate s' (c.shift k)) := by
  have hcontact : stateAtContact s' (c.shift k) = stateAtContact s c :=
    h.recordInputs.checkValid.checkEstop.checkPositive.checkRelease.state_eq
  unfold MotionFirmware.safetyEvaluate
  rw [hcontact]
  exact (h.checkHazards.checkStall _).recordCondition

/-! ### Resets -/

omit [Rounding] in
/-- A reset of the fault manager files the shifted record. -/
lemma faultReset_shift (m : FaultManager) :
    faultReset (m.shift k) = (faultReset m).map (FaultManager.shift k) := by
  have hcode : (m.shift k).active.code = m.active.code := rfl
  have hcondition : (m.shift k).active.conditionActive = m.active.conditionActive := rfl
  unfold faultReset
  rw [hcode, hcondition]
  split_ifs <;> rfl

omit [Rounding] in
/-- A reset succeeds for both managers or for none. -/
lemma SafetyManager.Shifted.reset (h : s.Shifted k P Q s') :
    (safetyReset s = none ∧ safetyReset s' = none) ∨
      ∃ t t', safetyReset s = some t ∧ safetyReset s' = some t' ∧ t.Shifted k P Q t' := by
  obtain ⟨start, detection, zero, rfl, hstart, hdetection⟩ := h.exists_eq
  unfold safetyReset
  rw [SafetyManager.shift_faults, faultReset_shift]
  by_cases hrefused : (!s.inputsValid || s.inputs.estop || s.inputs.positiveLimit ||
      s.inputs.negativeLimit || !s.healthy || s.encoderRecoveryRequired || s.internalActive) = true
  · exact Or.inl ⟨if_pos hrefused, if_pos hrefused⟩
  · rw [if_neg hrefused, if_neg (by exact hrefused)]
    cases hfaults : faultReset s.faults with
    | none => exact Or.inl ⟨rfl, rfl⟩
    | some faults =>
      refine Or.inr ⟨_, _, rfl, rfl, rfl, fun h => ?_, fun h => ?_⟩
      · exact hstart (h.imp_right fun h => absurd h nofun)
      · exact hdetection (h.imp_right fun h => absurd rfl h)

omit [Rounding] in
/-- The managers of two runs start shifted. -/
lemma shifted_safetyInit : (safetyInit now).Shifted k False False (safetyInit (now + k)) :=
  ⟨rfl, fun h => absurd h (by simp [safetyInit]), fun h => absurd h (by simp [safetyInit])⟩

omit [Rounding] in
/-- The times that are set now have been set. -/
lemma SafetyManager.Shifted.weaken {P' Q' : Prop} (h : s.Shifted k P Q s')
    (hP : P' → P ∨ s.candidate = true) (hQ : Q' → Q ∨ s.state ≠ .idle) : s.Shifted k P' Q' s' :=
  ⟨h.rest, fun h' => h.candidate (h'.elim hP Or.inr), fun h' => h.detection (h'.elim hQ Or.inr)⟩

end MotionFirmware
