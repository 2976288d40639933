import MotionFirmware.Safety.SafetyManager

/-!
# What one evaluation of the safety manager does

`safety_evaluate` changes the manager through a few primitive operations: a trip, an E-stop, and
single assignments to a latch or to the candidate.  `Kept` collects what a property of managers
must satisfy to survive them, and `Kept.safetyEvaluate` is the resulting rule; it is the only
place where the whole evaluation is unfolded.  The rest of the file states what an evaluation
leaves in each latch.
-/

namespace MotionFirmware

/-! ### Trips and E-stops -/

variable {s : SafetyManager} {code : FaultCode} {now source : UInt32} {c : Evaluation}

/-- A trip takes `IDLE` to `FAULT` and leaves a latched state alone. -/
lemma trip_state :
    (trip s code now source).state =
      if s.state = .estop then .estop else .fault := by
  unfold trip
  dsimp only
  split_ifs <;> simp_all

@[simp] lemma trip_state_ne_idle : (trip s code now source).state ≠ .idle := by
  rw [trip_state]
  split_ifs <;> simp

@[simp] lemma trip_homeContact : (trip s code now source).homeContact = false := by
  unfold trip
  dsimp only
  split_ifs <;> rfl

@[simp] lemma trip_faults :
    (trip s code now source).faults = faultRaise s.faults code now source := by
  unfold trip
  dsimp only
  split_ifs <;> rfl

@[simp] lemma trip_internalActive :
    (trip s code now source).internalActive = s.internalActive := by
  unfold trip
  dsimp only
  split_ifs <;> rfl

@[simp] lemma trip_encoderRecoveryRequired :
    (trip s code now source).encoderRecoveryRequired = s.encoderRecoveryRequired := by
  unfold trip
  dsimp only
  split_ifs <;> rfl

@[simp] lemma trip_faultPosition :
    (trip s code now source).faultPosition = s.faultPosition := by
  unfold trip
  dsimp only
  split_ifs <;> rfl

/-- Two managers agree in everything that is neither a latch nor part of the no-motion detector:
what was sampled, the start-up time, the counters and the recorded duties. -/
structure SafetyManager.SameRecord (s s' : SafetyManager) : Prop where
  inputs : s'.inputs = s.inputs
  inputsValid : s'.inputsValid = s.inputsValid
  healthy : s'.healthy = s.healthy
  unhealthyMask : s'.unhealthyMask = s.unhealthyMask
  zeroMs : s'.zeroMs = s.zeroMs
  startupMs : s'.startupMs = s.startupMs
  watchdogRefreshes : s'.watchdogRefreshes = s.watchdogRefreshes
  abortedMoves : s'.abortedMoves = s.abortedMoves
  requestedPwm : s'.requestedPwm = s.requestedPwm
  appliedPwm : s'.appliedPwm = s.appliedPwm
  requestedAtTrip : s'.requestedAtTrip = s.requestedAtTrip

lemma SafetyManager.SameRecord.refl (s : SafetyManager) : s.SameRecord s :=
  ⟨rfl, rfl, rfl, rfl, rfl, rfl, rfl, rfl, rfl, rfl, rfl⟩

/-- A trip touches latches only. -/
lemma sameRecord_trip {r : SafetyManager} (h : r.SameRecord s) :
    r.SameRecord (trip s code now source) := by
  unfold trip
  dsimp only
  split_ifs
  · exact { h with }
  · exact { h with }

@[simp] lemma trip_inputs : (trip s code now source).inputs = s.inputs :=
  (sameRecord_trip (.refl s)).inputs

@[simp] lemma trip_inputsValid : (trip s code now source).inputsValid = s.inputsValid :=
  (sameRecord_trip (.refl s)).inputsValid

@[simp] lemma trip_healthy : (trip s code now source).healthy = s.healthy :=
  (sameRecord_trip (.refl s)).healthy

@[simp] lemma trip_startupMs : (trip s code now source).startupMs = s.startupMs :=
  (sameRecord_trip (.refl s)).startupMs

@[simp] lemma trip_abortedMoves : (trip s code now source).abortedMoves = s.abortedMoves :=
  (sameRecord_trip (.refl s)).abortedMoves

/-- Raising a fault leaves some fault active. -/
lemma faultRaise_active_ne {m : FaultManager} (hcode : code ≠ .none) :
    (faultRaise m code now source).active.code ≠ .none := by
  unfold faultRaise
  split_ifs with h
  · exact hcode
  · intro hnone
    exact h ⟨hnone, hcode⟩

/-- The active fault after raising one is the old one, or the new one in an empty record. -/
lemma faultRaise_active (m : FaultManager) :
    (faultRaise m code now source).active = m.active ∨
      m.active.code = .none ∧ (faultRaise m code now source).active.code = code := by
  unfold faultRaise
  split_ifs with h
  · exact Or.inr ⟨h.1, rfl⟩
  · exact Or.inl rfl

@[simp] lemma faultRaise_history (m : FaultManager) :
    (faultRaise m code now source).history = m.history := by
  unfold faultRaise
  split_ifs <;> rfl

/-! ### The reset -/

/-- What `safety_reset` demands of the manager. -/
structure SafetyManager.Resettable (s : SafetyManager) : Prop where
  valid : s.inputsValid = true
  estop : s.inputs.estop = false
  positive : s.inputs.positiveLimit = false
  negative : s.inputs.negativeLimit = false
  healthy : s.healthy = true
  recovery : s.encoderRecoveryRequired = false
  internal : s.internalActive = false
  condition : s.faults.active.conditionActive = false

/-- The fault records after an accepted reset. -/
def FaultManager.cleared (m : FaultManager) : FaultManager :=
  { active := {}, history := if m.active.code ≠ .none then m.active else m.history }

/-- The manager after an accepted reset. -/
def SafetyManager.cleared (s : SafetyManager) : SafetyManager :=
  { s with faults := s.faults.cleared, state := .idle, candidate := false, candidateMs := 0 }

lemma faultReset_eq (m : FaultManager) :
    faultReset m = if m.active.conditionActive then none else some m.cleared := rfl

/-- A reset is accepted exactly when the manager is resettable. -/
theorem safetyReset_eq_some {s' : SafetyManager} :
    safetyReset s = some s' ↔ s.Resettable ∧ s' = s.cleared := by
  unfold safetyReset
  rw [faultReset_eq]
  constructor
  · intro h
    split_ifs at h with hguard hcond
    · simp at h
    · simp only [Bool.or_eq_true, Bool.not_eq_true', not_or, Bool.not_eq_true,
        Bool.not_eq_false] at hguard
      obtain ⟨⟨⟨⟨⟨⟨hv, he⟩, hp⟩, hn⟩, hh⟩, hr⟩, hi⟩ := hguard
      rw [Option.map_some, Option.some.injEq] at h
      exact ⟨⟨hv, he, hp, hn, hh, hr, hi, by simpa using hcond⟩, h.symm⟩
  · rintro ⟨hs, rfl⟩
    simp [hs.valid, hs.estop, hs.positive, hs.negative, hs.healthy, hs.recovery, hs.internal,
      hs.condition, SafetyManager.cleared]

/-! ### The rule for one evaluation -/

/-- The faults that an evaluation with these arguments may raise. -/
def Evaluation.raises (c : Evaluation) : FaultCode → Bool
  | .positiveLimit | .negativeLimit | .noMotionUnderCommand | .watchdog => true
  | .internal => !c.valid
  | .none | .homingTimeout => false

lemma Evaluation.ne_none_of_raises (h : c.raises code = true) : code ≠ .none := by
  rintro rfl
  exact absurd h nofun

/-- `P` survives every primitive operation that an evaluation with the arguments `c` performs. -/
structure Kept (c : Evaluation) (P : SafetyManager → Prop) : Prop where
  /-- `trip`, for each fault that the evaluation may raise. -/
  trip : ∀ s code source, P s → c.raises code = true → P (trip s code c.now source)
  /-- `safety_estop`. -/
  estop : ∀ s, P s → P (safetyEstop s c.now)
  /-- The latch of an integrity failure. -/
  internal : c.valid = false → ∀ s, P s → P { s with internalActive := true }
  /-- The end of the departure allowance. -/
  release : ∀ s, P s → P { s with homeContact := false }
  /-- The recovery evidence. -/
  recovery : ∀ s, P s → recovered s c = true → P { s with encoderRecoveryRequired := false }
  /-- The candidate of the no-motion detector. -/
  candidate : ∀ s b start ms, P s →
    P { s with candidate := b, candidateStartMs := start, candidateMs := ms }
  /-- The record of a no-motion fault, made in `IDLE` and followed by its trip. -/
  stall : ∀ s, P s → s.state = .idle → P (MotionFirmware.trip
    { s with encoderRecoveryRequired := true, faultPosition := c.motion.position }
    .noMotionUnderCommand c.now 0)
  /-- The presence of the condition of the active fault. -/
  condition : ∀ s, P s → P (recordCondition s c)

section Kept

variable {P : SafetyManager → Prop}

lemma Kept.checkValid (h : Kept c P) (hs : P s) : P (checkValid s c) := by
  unfold MotionFirmware.checkValid
  split_ifs with hv
  · exact h.trip _ .internal _ (h.internal (by simpa using hv) _ hs) hv
  · exact hs

lemma Kept.checkEstop (h : Kept c P) (hs : P s) : P (checkEstop s c) := by
  unfold MotionFirmware.checkEstop
  split_ifs
  · exact h.estop _ hs
  · exact hs

lemma Kept.checkPositive (h : Kept c P) (hs : P s) : P (checkPositive s c) := by
  unfold MotionFirmware.checkPositive
  split_ifs
  · exact h.trip _ _ _ hs rfl
  · exact hs

lemma Kept.checkRelease (h : Kept c P) (hs : P s) : P (checkRelease s c) := by
  unfold MotionFirmware.checkRelease
  split_ifs
  · exact h.release _ hs
  · exact hs

lemma Kept.checkNegative (h : Kept c P) (hs : P s) : P (checkNegative s c) := by
  unfold MotionFirmware.checkNegative
  split_ifs
  · exact h.trip _ _ _ hs rfl
  · exact hs

lemma Kept.checkWatchdog (h : Kept c P) (hs : P s) : P (checkWatchdog s c) := by
  unfold MotionFirmware.checkWatchdog
  split_ifs
  · exact h.trip _ _ _ hs rfl
  · exact hs

lemma Kept.checkRecovery (h : Kept c P) (hs : P s) : P (checkRecovery s c) := by
  unfold MotionFirmware.checkRecovery
  split_ifs with hr
  · exact h.recovery _ hs hr
  · exact hs

/-- The checks after the first one keep what their primitive operations keep. -/
lemma Kept.checkHazards (h : Kept c P) (hs : P (MotionFirmware.checkValid (recordInputs s c) c)) :
    P (checkHazards s c) :=
  h.checkRecovery (h.checkWatchdog (h.checkNegative (h.checkRelease (h.checkPositive
    (h.checkEstop hs)))))

variable [Rounding]

lemma Kept.checkStall (h : Kept c P) (hs : P s) (contact : AppState) :
    P (checkStall s c contact) := by
  unfold MotionFirmware.checkStall
  split_ifs with hq
  · have hcandidate := h.candidate s true (candidateStart s c) (c.now - candidateStart s c) hs
    have hidle : s.state = .idle := by
      simp only [qualifying, Bool.and_eq_true, beq_iff_eq] at hq
      exact hq.1.1.1.1.1
    dsimp only
    split_ifs
    · exact h.stall _ hcandidate hidle
    · exact hcandidate
  · exact h.candidate s false s.candidateStartMs 0 hs

/-- What survives the primitive operations and holds after the hazard checks holds after the
evaluation. -/
lemma Kept.of_checkHazards (h : Kept c P) (hs : P (MotionFirmware.checkHazards s c)) :
    P (safetyEvaluate s c) :=
  h.condition _ (h.checkStall hs _)

/-- **Rule for one evaluation.**  What survives the primitive operations and holds once the inputs
are recorded holds after the evaluation. -/
theorem Kept.safetyEvaluate (h : Kept c P) (hs : P (recordInputs s c)) :
    P (safetyEvaluate s c) :=
  h.of_checkHazards (h.checkHazards (h.checkValid hs))

end Kept

/-- A latched state survives every primitive operation. -/
lemma kept_latched : Kept c fun s => s.state ≠ .idle where
  trip _ _ _ _ _ := trip_state_ne_idle
  estop _ _ := by simp [safetyEstop]
  internal _ _ hs := hs
  release _ hs := hs
  recovery _ hs _ := hs
  candidate _ _ _ _ hs := hs
  stall _ _ _ := trip_state_ne_idle
  condition _ hs := hs

/-- A fault is latched: the record holds one, and the state is not `IDLE`. -/
def SafetyManager.Faulted (s : SafetyManager) : Prop :=
  s.faults.active.code ≠ .none ∧ s.state ≠ .idle

lemma faulted_trip (hcode : code ≠ .none) : (trip s code now source).Faulted :=
  ⟨by rw [trip_faults]; exact faultRaise_active_ne hcode, trip_state_ne_idle⟩

/-- A latched fault survives every primitive operation. -/
lemma kept_faulted : Kept c SafetyManager.Faulted where
  trip _ _ _ _ hcode := faulted_trip (Evaluation.ne_none_of_raises hcode)
  estop _ hs := ⟨hs.1, by simp [safetyEstop]⟩
  internal _ _ hs := hs
  release _ hs := hs
  recovery _ hs _ := hs
  candidate _ _ _ _ hs := hs
  stall _ _ _ := faulted_trip (by decide)
  condition _ hs := hs

/-! ### What an evaluation leaves alone -/

/-- No operation of an evaluation touches the record. -/
lemma kept_sameRecord {r : SafetyManager} : Kept c r.SameRecord where
  trip _ _ _ hs _ := sameRecord_trip hs
  estop _ hs := { hs with }
  internal _ _ hs := { hs with }
  release _ hs := { hs with }
  recovery _ hs _ := { hs with }
  candidate _ _ _ _ hs := { hs with }
  stall _ hs _ := sameRecord_trip { hs with }
  condition _ hs := { hs with }

variable [Rounding]

/-- An evaluation records its inputs; apart from that it touches latches only. -/
theorem sameRecord_safetyEvaluate : (recordInputs s c).SameRecord (safetyEvaluate s c) :=
  kept_sameRecord.safetyEvaluate (SafetyManager.SameRecord.refl _)

@[simp] lemma safetyEvaluate_inputs : (safetyEvaluate s c).inputs = c.inputs :=
  sameRecord_safetyEvaluate.inputs

@[simp] lemma safetyEvaluate_inputsValid : (safetyEvaluate s c).inputsValid = c.valid :=
  sameRecord_safetyEvaluate.inputsValid

@[simp] lemma safetyEvaluate_healthy :
    (safetyEvaluate s c).healthy = (c.unhealthyMask == 0) :=
  sameRecord_safetyEvaluate.healthy

@[simp] lemma safetyEvaluate_startupMs : (safetyEvaluate s c).startupMs = s.startupMs :=
  sameRecord_safetyEvaluate.startupMs

@[simp] lemma safetyEvaluate_abortedMoves :
    (safetyEvaluate s c).abortedMoves = s.abortedMoves :=
  sameRecord_safetyEvaluate.abortedMoves

/-! ### The latched state -/

/-- A latched state stays latched. -/
theorem safetyEvaluate_state_ne_idle (h : s.state ≠ .idle) :
    (safetyEvaluate s c).state ≠ .idle :=
  kept_latched.safetyEvaluate h

/-- An E-stop stays an E-stop. -/
theorem safetyEvaluate_estop (h : s.state = .estop) : (safetyEvaluate s c).state = .estop := by
  have hkept : Kept c fun s => s.state = .estop :=
    { trip := fun _ _ _ hs _ => by rw [trip_state, if_pos hs]
      estop := fun _ _ => rfl
      internal := fun _ _ hs => hs
      release := fun _ hs => hs
      recovery := fun _ hs _ => hs
      candidate := fun _ _ _ _ hs => hs
      stall := fun _ hs _ => by rw [trip_state]; exact if_pos hs
      condition := fun _ hs => hs }
  exact hkept.safetyEvaluate h

/-- An initialised manager is in `IDLE`, `FAULT` or `ESTOP`. -/
def SafetyManager.Settled (s : SafetyManager) : Prop :=
  s.state = .idle ∨ s.state = .fault ∨ s.state = .estop

omit [Rounding] in
lemma SafetyManager.Settled.ne_homing (h : s.Settled) : s.state ≠ .homing := by
  rcases h with h | h | h <;> simp [h]

omit [Rounding] in
lemma settled_trip : (trip s code now source).Settled := by
  unfold SafetyManager.Settled
  rw [trip_state]
  split_ifs <;> simp

/-- An evaluation leaves the manager settled. -/
theorem SafetyManager.Settled.safetyEvaluate (h : s.Settled) : (safetyEvaluate s c).Settled := by
  have hkept : Kept c SafetyManager.Settled :=
    { trip := fun _ _ _ _ _ => settled_trip
      estop := fun _ _ => Or.inr (Or.inr rfl)
      internal := fun _ _ hs => hs
      release := fun _ hs => hs
      recovery := fun _ hs _ => hs
      candidate := fun _ _ _ _ hs => hs
      stall := fun _ _ _ => settled_trip
      condition := fun _ hs => hs }
  exact hkept.safetyEvaluate h

/-! ### Evaluations that leave the state in `IDLE` -/

/-- The hazard checks of an evaluation find nothing but an expected contact. -/
structure Clean (s : SafetyManager) (c : Evaluation) : Prop where
  state : s.state = .idle
  valid : c.valid = true
  estop : c.inputs.estop = false
  positive : c.inputs.positiveLimit = false
  negative : c.inputs.negativeLimit = true →
    c.motion.state = .homing ∨ s.homeContact = true ∧ (c.parked = true ∨ c.departing = true)
  supervised : c.unhealthyMask = 0 ∨ c.now - s.startupMs < safetyStartupGraceMs

omit [Rounding] in
/-- The recovery check leaves the state alone. -/
@[simp] lemma checkRecovery_state : (checkRecovery s c).state = s.state := by
  unfold checkRecovery
  split_ifs <;> rfl

omit [Rounding] in
/-- The manager that reaches the recovery check in a clean evaluation. -/
lemma checkHazards_of_clean (h : Clean s c) :
    checkHazards s c = checkRecovery { recordInputs s c with
      homeContact := s.homeContact && c.inputs.negativeLimit } c := by
  have hvalid : checkValid (recordInputs s c) c = recordInputs s c := by
    simp [checkValid, h.valid]
  have hestop : checkEstop (recordInputs s c) c = recordInputs s c := by
    simp [checkEstop, h.estop]
  have hpositive : checkPositive (recordInputs s c) c = recordInputs s c := by
    simp [checkPositive, h.positive]
  have hrelease : checkRelease (recordInputs s c) c =
      { recordInputs s c with homeContact := s.homeContact && c.inputs.negativeLimit } := by
    cases hneg : c.inputs.negativeLimit <;>
      simp [checkRelease, recordInputs, h.valid, hneg]
  unfold checkHazards
  rw [hvalid, hestop, hpositive, hrelease]
  set r : SafetyManager :=
    { recordInputs s c with homeContact := s.homeContact && c.inputs.negativeLimit } with hr
  have hnegative : checkNegative r c = r := by
    refine if_neg fun hun => ?_
    simp only [unexpectedNegative, Evaluation.expectedHome, Bool.and_eq_true,
      Bool.not_eq_true'] at hun
    obtain ⟨⟨hneg, hnot⟩, hallow⟩ := hun
    rcases h.negative hneg with hhoming | ⟨hcontact, hmove⟩
    · simp [hhoming, hr, recordInputs, h.state] at hnot
    · have : r.homeContact = true := by simp [hr, hcontact, hneg]
      rcases hmove with hmove | hmove <;> simp [this, hmove] at hallow
  have hwatchdog : checkWatchdog r c = r := by
    refine if_neg fun hfail => ?_
    simp only [supervisionFailed, Bool.and_eq_true, Bool.not_eq_true', decide_eq_true_eq] at hfail
    rcases h.supervised with hmask | hgrace
    · simp [hr, recordInputs, hmask] at hfail
    · exact absurd hfail.2 (UInt32.not_le.mpr hgrace)
  rw [hnegative, hwatchdog]

omit [Rounding] in
/-- When the hazard checks leave the state in `IDLE`, they were clean. -/
lemma clean_of_checkHazards (h : (checkHazards s c).state = .idle) : Clean s c := by
  have hkept := kept_latched (c := c)
  -- each check that fires leaves a latched state, and the later checks keep it latched
  have hstate : s.state = .idle := by
    by_contra hne
    exact hkept.checkHazards (hkept.checkValid hne) h
  have hvalid : c.valid = true := by
    by_contra hv
    refine hkept.checkHazards (s := s) ?_ h
    simp [checkValid, Bool.not_eq_true _ ▸ hv, safetyInternalFault]
  have hestop : c.inputs.estop = false := by
    by_contra he
    refine hkept.checkRecovery (hkept.checkWatchdog (hkept.checkNegative (hkept.checkRelease
      (hkept.checkPositive ?_)))) h
    simp [checkEstop, Bool.not_eq_false _ ▸ he, safetyEstop]
  have hpositive : c.inputs.positiveLimit = false := by
    by_contra hp
    refine hkept.checkRecovery (hkept.checkWatchdog (hkept.checkNegative
      (hkept.checkRelease ?_))) h
    simp [checkPositive, Bool.not_eq_false _ ▸ hp]
  set r := checkRelease (checkPositive (checkEstop (checkValid (recordInputs s c) c) c) c) c
    with hr
  have hrelease : r = { recordInputs s c with
      homeContact := s.homeContact && c.inputs.negativeLimit } := by
    cases hneg : c.inputs.negativeLimit <;>
      simp [hr, checkValid, checkEstop, checkPositive, checkRelease, recordInputs, hvalid, hestop,
        hpositive, hneg]
  have hnegative : unexpectedNegative r c = false := by
    by_contra hun
    refine hkept.checkRecovery (hkept.checkWatchdog (s := checkNegative r c) ?_) h
    simp [checkNegative, Bool.not_eq_false _ ▸ hun]
  refine ⟨hstate, hvalid, hestop, hpositive, fun hneg => ?_, ?_⟩
  · simp only [unexpectedNegative, Evaluation.expectedHome, hrelease, recordInputs, hstate, hneg,
      beq_self_eq_true, Bool.and_true, Bool.true_and, Bool.and_eq_false_iff,
      Bool.not_eq_false', beq_iff_eq, Bool.and_eq_true, Bool.or_eq_true] at hnegative
    exact hnegative
  · by_contra hun
    obtain ⟨hmask, hgrace⟩ := not_or.mp hun
    refine hkept.checkRecovery (s := checkWatchdog (checkNegative r c) c) ?_ h
    have hnone : checkNegative r c = r := by simp [checkNegative, hnegative]
    have hfail : supervisionFailed r c = true := by
      simpa [supervisionFailed, hrelease, recordInputs, hmask] using hgrace
    simp [checkWatchdog, hnone, hfail]

/-- When an evaluation leaves the state in `IDLE`, its hazard checks were clean. -/
theorem clean_of_safetyEvaluate (h : (safetyEvaluate s c).state = .idle) : Clean s c := by
  refine clean_of_checkHazards ?_
  by_contra hne
  exact kept_latched.of_checkHazards hne h

/-- A no-motion check that leaves the state in `IDLE` touches the candidate only. -/
lemma checkStall_of_idle (contact : AppState) (h : (checkStall s c contact).state = .idle) :
    ∃ b start ms, checkStall s c contact =
      { s with candidate := b, candidateStartMs := start, candidateMs := ms } := by
  unfold checkStall at h ⊢
  dsimp only at h ⊢
  split_ifs at h ⊢
  · exact absurd h trip_state_ne_idle
  · exact ⟨_, _, _, rfl⟩
  · exact ⟨_, _, _, rfl⟩

/-- The form of an evaluation that leaves the state in `IDLE`. -/
theorem safetyEvaluate_of_idle (h : (safetyEvaluate s c).state = .idle) :
    ∃ b start ms, safetyEvaluate s c = recordCondition
      { checkRecovery { recordInputs s c with
          homeContact := s.homeContact && c.inputs.negativeLimit } c with
        candidate := b, candidateStartMs := start, candidateMs := ms } c := by
  obtain ⟨b, start, ms, hstall⟩ := checkStall_of_idle (stateAtContact s c) h
  refine ⟨b, start, ms, ?_⟩
  rw [safetyEvaluate, hstall, checkHazards_of_clean (clean_of_safetyEvaluate h)]

/-! ### Evaluations that a reset accepts -/

/-- The evaluation samples no hazard and no missing heartbeat. -/
structure Evaluation.Quiet (c : Evaluation) : Prop where
  valid : c.valid = true
  estop : c.inputs.estop = false
  positive : c.inputs.positiveLimit = false
  negative : c.inputs.negativeLimit = false
  supervised : c.unhealthyMask = 0

/-- A manager that can be reset after an evaluation has seen a quiet one. -/
lemma quiet_of_resettable (h : (safetyEvaluate s c).Resettable) : c.Quiet where
  valid := by simpa using h.valid
  estop := by simpa using h.estop
  positive := by simpa using h.positive
  negative := by simpa using h.negative
  supervised := by simpa using h.healthy

omit [Rounding] in
/-- In a quiet evaluation the hazard checks only end the departure allowance and look for recovery
evidence. -/
lemma checkHazards_of_quiet (h : c.Quiet) :
    checkHazards s c = checkRecovery { recordInputs s c with homeContact := false } c := by
  have hnegative : ∀ r : SafetyManager, checkNegative r c = r := by
    intro r
    simp [checkNegative, unexpectedNegative, h.negative]
  simp [checkHazards, checkValid, checkEstop, checkPositive, checkRelease, checkWatchdog,
    supervisionFailed, recordInputs, hnegative, h.valid, h.estop, h.positive, h.negative,
    h.supervised]

/-- **Retention up to a reset.**  An evaluation after which the manager can be reset raises no
fault: it finds the active record and clears its condition. -/
theorem faults_of_resettable (h : (safetyEvaluate s c).Resettable) :
    (safetyEvaluate s c).faults =
      { s.faults with active := { s.faults.active with conditionActive := false } } := by
  have hquiet := quiet_of_resettable h
  have hhazards : (checkHazards s c).faults = s.faults := by
    rw [checkHazards_of_quiet hquiet]
    unfold checkRecovery
    split_ifs <;> rfl
  have hstall : (checkStall (checkHazards s c) c (stateAtContact s c)).faults = s.faults := by
    have hrecovery : (checkStall (checkHazards s c) c (stateAtContact s c)).encoderRecoveryRequired
        = false := h.recovery
    unfold checkStall at hrecovery ⊢
    dsimp only at hrecovery ⊢
    split_ifs at hrecovery ⊢
    · -- a trip would demand recovery evidence
      rw [trip_encoderRecoveryRequired] at hrecovery
      exact absurd hrecovery nofun
    · exact hhazards
    · exact hhazards
  have hcondition : (safetyEvaluate s c).faults.active.conditionActive = false := h.condition
  unfold safetyEvaluate recordCondition at hcondition ⊢
  simp only [hstall] at hcondition ⊢
  rw [hcondition]

/-! ### The single latches -/

omit [Rounding] in
@[simp] lemma checkRecovery_homeContact :
    (checkRecovery s c).homeContact = s.homeContact := by
  unfold checkRecovery
  split_ifs <;> rfl

/-- While the state stays `IDLE`, an evaluation keeps the departure allowance exactly as long as it
samples the switch active. -/
theorem safetyEvaluate_homeContact_of_idle (h : (safetyEvaluate s c).state = .idle) :
    (safetyEvaluate s c).homeContact = (s.homeContact && c.inputs.negativeLimit) := by
  obtain ⟨b, start, ms, heq⟩ := safetyEvaluate_of_idle h
  rw [heq]
  exact checkRecovery_homeContact

/-- An allowance that an evaluation leaves was there before, in `IDLE`, and the state is still
`IDLE`. -/
theorem safetyEvaluate_homeContact (hs : s.homeContact = true → s.state = .idle)
    (h : (safetyEvaluate s c).homeContact = true) :
    (safetyEvaluate s c).state = .idle ∧ s.homeContact = true ∧ c.inputs.negativeLimit = true := by
  have hkept : Kept c fun s' => s'.homeContact = true → s'.state = .idle :=
    { trip := fun _ _ _ _ _ hc => by simp at hc
      estop := fun _ _ hc => by simp [safetyEstop] at hc
      internal := fun _ _ hs => hs
      release := fun _ _ hc => by simp at hc
      recovery := fun _ hs _ => hs
      candidate := fun _ _ _ _ hs => hs
      stall := fun _ _ _ hc => by simp at hc
      condition := fun _ hs => hs }
  have hidle := hkept.safetyEvaluate (s := s) hs h
  have heq := safetyEvaluate_homeContact_of_idle hidle
  rw [h, eq_comm, Bool.and_eq_true] at heq
  exact ⟨hidle, heq⟩

/-- The latch of an integrity failure is set by failed inputs and never cleared. -/
theorem safetyEvaluate_internalActive :
    (safetyEvaluate s c).internalActive = (s.internalActive || !c.valid) := by
  have hset : Kept c fun s' => s'.internalActive = true :=
    { trip := fun _ _ _ hs _ => trip_internalActive.trans hs
      estop := fun _ hs => hs
      internal := fun _ _ _ => rfl
      release := fun _ hs => hs
      recovery := fun _ hs _ => hs
      candidate := fun _ _ _ _ hs => hs
      stall := fun _ hs _ => trip_internalActive.trans hs
      condition := fun _ hs => hs }
  cases hv : c.valid with
  | false =>
    rw [Bool.not_false, Bool.or_true]
    refine hset.of_checkHazards (hset.checkHazards ?_)
    simp [checkValid, hv, safetyInternalFault]
  | true =>
    have hkept : Kept c fun s' => s'.internalActive = s.internalActive :=
      { trip := fun _ _ _ hs _ => trip_internalActive.trans hs
        estop := fun _ hs => hs
        internal := fun hf => by simp [hv] at hf
        release := fun _ hs => hs
        recovery := fun _ hs _ => hs
        candidate := fun _ _ _ _ hs => hs
        stall := fun _ hs _ => trip_internalActive.trans hs
        condition := fun _ hs => hs }
    rw [Bool.not_true, Bool.or_false]
    exact hkept.safetyEvaluate rfl

/-- An evaluation retains the code of the active fault, or raises one that its arguments allow. -/
theorem safetyEvaluate_active_code :
    (safetyEvaluate s c).faults.active.code = s.faults.active.code ∨
      c.raises (safetyEvaluate s c).faults.active.code = true := by
  have hraise : ∀ (s' : SafetyManager) code source, c.raises code = true →
      s'.faults.active.code = s.faults.active.code ∨ c.raises s'.faults.active.code = true →
      (trip s' code c.now source).faults.active.code = s.faults.active.code ∨
        c.raises (trip s' code c.now source).faults.active.code = true := by
    intro s' code source hcode hs
    rw [trip_faults]
    rcases faultRaise_active s'.faults with hkeep | ⟨-, hnew⟩
    · rwa [hkeep]
    · exact Or.inr (by rwa [hnew])
  have hkept : Kept c fun s' => s'.faults.active.code = s.faults.active.code ∨
      c.raises s'.faults.active.code = true :=
    { trip := fun _ _ _ hs hcode => hraise _ _ _ hcode hs
      estop := fun _ hs => hs
      internal := fun _ _ hs => hs
      release := fun _ hs => hs
      recovery := fun _ hs _ => hs
      candidate := fun _ _ _ _ hs => hs
      stall := fun _ hs _ => hraise _ _ _ rfl hs
      condition := fun _ hs => hs }
  exact hkept.safetyEvaluate (Or.inl rfl)

/-- An evaluation does not touch the history. -/
@[simp] lemma safetyEvaluate_history :
    (safetyEvaluate s c).faults.history = s.faults.history := by
  have hkept : Kept c fun s' => s'.faults.history = s.faults.history :=
    { trip := fun _ _ _ hs _ => by rw [trip_faults, faultRaise_history, hs]
      estop := fun _ hs => hs
      internal := fun _ _ hs => hs
      release := fun _ hs => hs
      recovery := fun _ hs _ => hs
      candidate := fun _ _ _ _ hs => hs
      stall := fun _ hs _ => by rw [trip_faults, faultRaise_history, hs]
      condition := fun _ hs => hs }
  exact hkept.safetyEvaluate rfl

/-- An active negative switch that neither a seek nor the allowance covers latches a fault. -/
theorem faulted_of_negative (hneg : c.inputs.negativeLimit = true)
    (hhoming : c.motion.state ≠ .homing)
    (hallow : ¬ (s.homeContact = true ∧ (c.parked = true ∨ c.departing = true))) :
    (safetyEvaluate s c).Faulted := by
  set r := checkRelease (checkPositive (checkEstop (checkValid (recordInputs s c) c) c) c) c
    with hr
  -- the checks before the negative limit can only end the allowance
  have hkept : Kept c fun s' => s'.homeContact = true → s.homeContact = true :=
    { trip := fun _ _ _ _ _ hc => by simp at hc
      estop := fun _ _ hc => by simp [safetyEstop] at hc
      internal := fun _ _ hs => hs
      release := fun _ _ hc => by simp at hc
      recovery := fun _ hs _ => hs
      candidate := fun _ _ _ _ hs => hs
      stall := fun _ _ _ hc => by simp at hc
      condition := fun _ hs => hs }
  have hcontact : r.homeContact = true → s.homeContact = true :=
    hkept.checkRelease (hkept.checkPositive (hkept.checkEstop (hkept.checkValid id)))
  have hun : unexpectedNegative r c = true := by
    have hexpected : c.expectedHome r.state = false := by simp [Evaluation.expectedHome, hhoming]
    have hcovered : (r.homeContact && (c.parked || c.departing)) = false := by
      by_contra hne
      simp only [Bool.not_eq_false, Bool.and_eq_true, Bool.or_eq_true] at hne
      exact hallow ⟨hcontact hne.1, hne.2⟩
    simp [unexpectedNegative, hneg, hexpected, hcovered]
  have hnegative : (checkNegative r c).Faulted := by
    unfold checkNegative
    rw [if_pos hun]
    exact faulted_trip (by decide)
  exact kept_faulted.of_checkHazards
    (kept_faulted.checkRecovery (kept_faulted.checkWatchdog hnegative))

end MotionFirmware
