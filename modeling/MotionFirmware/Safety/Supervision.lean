import MotionFirmware.Foundation.WrappingClock
import MotionFirmware.Safety.SafetyHistory

/-!
# Which evaluations leave a fault

An evaluation leaves no active fault exactly when none was active before and none of its checks
raises one.  The supervision of the heartbeats is the check that depends on time: it compares the
elapsed time modulo `2 ^ 32` with the start-up grace, and the start-up time is never retired.
-/

namespace MotionFirmware

variable [Rounding] {s : SafetyManager} {c : Evaluation} {code : FaultCode} {now source : UInt32}

omit [Rounding] in
/-- A trip leaves an active fault. -/
lemma active_trip (hcode : code ≠ .none) : (trip s code now source).faults.active.code ≠ .none := by
  rw [trip_faults]
  exact faultRaise_active_ne hcode

omit [Rounding] in
/-- A check that trips under a condition leaves no fault when there was none and the condition
fails. -/
lemma active_ite_trip (code : FaultCode) (hcode : code ≠ .none) {p : Prop} [Decidable p] :
    (if p then trip s code now source else s).faults.active.code = .none ↔
      s.faults.active.code = .none ∧ ¬ p := by
  split_ifs with h
  · exact iff_of_false (active_trip hcode) fun hnone => hnone.2 h
  · exact ⟨fun hnone => ⟨hnone, h⟩, fun hnone => hnone.1⟩

/-- The manager that reaches the check of the negative limit. -/
def managerAtContact (s : SafetyManager) (c : Evaluation) : SafetyManager :=
  checkRelease (checkPositive (checkEstop (checkValid (recordInputs s c) c) c) c) c

omit [Rounding] in
/-- No fault when the negative limit is checked. -/
lemma active_managerAtContact :
    (managerAtContact s c).faults.active.code = .none ↔
      s.faults.active.code = .none ∧ c.valid = true ∧ c.inputs.positiveLimit = false := by
  have hrelease : ∀ r : SafetyManager, (checkRelease r c).faults = r.faults := by
    intro r
    unfold checkRelease
    split_ifs <;> rfl
  have hestop : ∀ r : SafetyManager, (checkEstop r c).faults = r.faults := by
    intro r
    unfold checkEstop
    split_ifs <;> rfl
  have hvalid : (checkValid (recordInputs s c) c).faults.active.code = .none ↔
      s.faults.active.code = .none ∧ c.valid = true := by
    unfold checkValid safetyInternalFault
    split_ifs with h
    · refine iff_of_false (active_trip (by decide)) fun hnone => ?_
      simp [hnone.2] at h
    · exact ⟨fun hnone => ⟨hnone, by simpa using h⟩, fun hnone => hnone.1⟩
  unfold managerAtContact
  rw [hrelease, checkPositive, active_ite_trip .positiveLimit (by decide), hestop, hvalid]
  simp [and_assoc]

/-- An evaluation with an active negative switch that neither a seek nor the allowance covers. -/
def uncovered (s : SafetyManager) (c : Evaluation) : Bool :=
  c.inputs.negativeLimit && !(c.expectedHome s.state && !c.inputs.estop) &&
    !(s.homeContact && !c.inputs.estop && (c.parked || c.departing))

omit [Rounding] in
/-- With valid inputs and no positive limit, the check of the negative limit sees the manager from
before the evaluation, unless the E-stop is active. -/
lemma unexpectedNegative_managerAtContact (hvalid : c.valid = true)
    (hpositive : c.inputs.positiveLimit = false) :
    unexpectedNegative (managerAtContact s c) c = uncovered s c := by
  cases hneg : c.inputs.negativeLimit with
  | false => simp [unexpectedNegative, uncovered, hneg]
  | true =>
    cases hestop : c.inputs.estop with
    | false =>
      simp [unexpectedNegative, uncovered, managerAtContact, checkValid, checkEstop, checkPositive,
        checkRelease, recordInputs, hvalid, hpositive, hneg, hestop]
    | true =>
      simp [unexpectedNegative, uncovered, managerAtContact, checkValid, checkEstop, checkPositive,
        checkRelease, recordInputs, safetyEstop, Evaluation.expectedHome, hvalid, hpositive, hneg,
        hestop]

omit [Rounding] in
/-- The supervision sees the recorded mask and the start-up time. -/
lemma supervisionFailed_of_sameRecord {r : SafetyManager} (h : (recordInputs s c).SameRecord r) :
    supervisionFailed r c = true ↔
      c.unhealthyMask ≠ 0 ∧ safetyStartupGraceMs ≤ c.now - s.startupMs := by
  unfold supervisionFailed
  rw [h.healthy, h.startupMs, Bool.and_eq_true, decide_eq_true_eq]
  simp [recordInputs]

/-- **Which evaluations leave no fault.** -/
theorem safetyEvaluate_active_eq_none :
    (safetyEvaluate s c).faults.active.code = .none ↔
      s.faults.active.code = .none ∧ c.valid = true ∧ c.inputs.positiveLimit = false ∧
        uncovered s c = false ∧
        ¬ (c.unhealthyMask ≠ 0 ∧ safetyStartupGraceMs ≤ c.now - s.startupMs) ∧
        stalled s c = false := by
  have hcontact : (recordInputs s c).SameRecord (managerAtContact s c) :=
    kept_sameRecord.checkRelease (kept_sameRecord.checkPositive (kept_sameRecord.checkEstop
      (kept_sameRecord.checkValid (SafetyManager.SameRecord.refl _))))
  have hhazards : (checkHazards s c).faults.active.code = .none ↔
      ((managerAtContact s c).faults.active.code = .none ∧
        ¬ unexpectedNegative (managerAtContact s c) c = true) ∧
        ¬ supervisionFailed (checkNegative (managerAtContact s c) c) c = true := by
    have hrecovery : ∀ r : SafetyManager, (checkRecovery r c).faults = r.faults := by
      intro r
      unfold checkRecovery
      split_ifs <;> rfl
    have heq : checkHazards s c =
        checkRecovery (checkWatchdog (checkNegative (managerAtContact s c) c) c) c := rfl
    rw [heq, hrecovery, checkWatchdog, active_ite_trip .watchdog (by decide), checkNegative,
      active_ite_trip .negativeLimit (by decide)]
  have hstall : (checkStall (checkHazards s c) c (stateAtContact s c)).faults.active.code = .none ↔
      (checkHazards s c).faults.active.code = .none ∧ stalled s c = false := by
    unfold checkStall stalled
    dsimp only
    split_ifs with hqualifying htimeout
    · refine iff_of_false (active_trip (by decide)) fun hnone => ?_
      simp [hqualifying, htimeout] at hnone
    · simp [hqualifying, htimeout]
    · simp [hqualifying]
  have hsupervision : supervisionFailed (checkNegative (managerAtContact s c) c) c = true ↔
      c.unhealthyMask ≠ 0 ∧ safetyStartupGraceMs ≤ c.now - s.startupMs :=
    supervisionFailed_of_sameRecord (kept_sameRecord.checkNegative hcontact)
  have hactive : (safetyEvaluate s c).faults.active.code = .none ↔ _ := hstall
  rw [hactive, hhazards, active_managerAtContact, hsupervision]
  constructor
  · rintro ⟨⟨⟨⟨hnone, hvalid, hpositive⟩, hnegative⟩, hwatchdog⟩, hstalled⟩
    rw [unexpectedNegative_managerAtContact hvalid hpositive] at hnegative
    exact ⟨hnone, hvalid, hpositive, by simpa using hnegative, hwatchdog, hstalled⟩
  · rintro ⟨hnone, hvalid, hpositive, hnegative, hwatchdog, hstalled⟩
    rw [← unexpectedNegative_managerAtContact hvalid hpositive] at hnegative
    exact ⟨⟨⟨⟨hnone, hvalid, hpositive⟩, by simp [hnegative]⟩, hwatchdog⟩, hstalled⟩

/-! ### Supervision over a history -/

/-- No fault is active before the evaluation, and no check but the supervision may raise one. -/
structure SafetyManager.NotFaultedOtherwise (s : SafetyManager) (c : Evaluation) : Prop where
  active : s.faults.active.code = .none
  valid : c.valid = true
  positive : c.inputs.positiveLimit = false
  negative : uncovered s c = false
  stall : stalled s c = false

/-- With a missing heartbeat, an evaluation leaves a fault latched exactly when the elapsed time
modulo `2 ^ 32` has reached the grace, or the fault does not come from the supervision. -/
theorem faulted_iff_of_unhealthy (hs : s.Consistent) (hmask : c.unhealthyMask ≠ 0) :
    (safetyEvaluate s c).Faulted ↔
      safetyStartupGraceMs ≤ c.now - s.startupMs ∨ ¬ s.NotFaultedOtherwise c := by
  have hlatched := (hs.safetyEvaluate (c := c)).latched
  have hiff := safetyEvaluate_active_eq_none (s := s) (c := c)
  constructor
  · rintro ⟨hactive, -⟩
    by_contra hnot
    obtain ⟨hgrace, hother⟩ := not_or.mp hnot
    obtain ⟨hnone, hvalid, hpositive, hnegative, hstall⟩ := not_not.mp hother
    exact hactive (hiff.mpr ⟨hnone, hvalid, hpositive, hnegative, fun h => hgrace h.2, hstall⟩)
  · intro hcause
    have hactive : (safetyEvaluate s c).faults.active.code ≠ .none := by
      intro hquiet
      obtain ⟨hnone, hvalid, hpositive, hnegative, hwatchdog, hstall⟩ := hiff.mp hquiet
      rcases hcause with hgrace | hother
      · exact hwatchdog ⟨hmask, hgrace⟩
      · exact hother ⟨hnone, hvalid, hpositive, hnegative, hstall⟩
    exact ⟨hactive, hlatched hactive⟩

/-- No call retires the start-up time. -/
@[simp] lemma apply_startupMs (call : SafetyCall) (s : SafetyManager) :
    (SafetyManager.apply call s).startupMs = s.startupMs := by
  cases call with
  | evaluate => exact safetyEvaluate_startupMs
  | reset =>
    cases hr : safetyReset s with
    | none => simp [SafetyManager.apply, hr]
    | some s' =>
      obtain ⟨-, rfl⟩ := safetyReset_eq_some.mp hr
      simp [SafetyManager.apply, hr, SafetyManager.cleared]
  | internalFault => exact trip_startupMs
  | homingTimeout => exact trip_startupMs
  | _ => rfl

/-- The start-up time of a history is that of its beginning. -/
lemma replay_startupMs (s : SafetyManager) (calls : List SafetyCall) :
    (s.replay calls).startupMs = s.startupMs := by
  induction calls generalizing s with
  | nil => rfl
  | cons call calls ih => rw [SafetyManager.replay_cons, ih, apply_startupMs]

omit [Rounding] in
/-- The grace is over, as the code sees it, when the true elapsed time modulo `2 ^ 32` has reached
it. -/
lemma safetyStartupGraceMs_le_iff {start time : ℕ} (h : start ≤ time) :
    safetyStartupGraceMs ≤ WrappingClock.reading time - WrappingClock.reading start ↔
      200 ≤ (time - start) % 2 ^ 32 := by
  rw [UInt32.le_iff_toNat_le, WrappingClock.toNat_reading_sub h]
  rfl

end MotionFirmware
