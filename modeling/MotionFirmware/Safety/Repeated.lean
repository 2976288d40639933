import MotionFirmware.Safety.SafetyChecks

/-!
# Repeated evaluations

Motion evaluates more often than the Safety task does: inside `HOME`, `RESET` and the departure
handling.  An evaluation with the arguments of the one before it finds what that one has left: every
check that fires again finds its own fault on record and the state latched, and every check that did
not fire meets the same guard.  Only the candidate of the no-motion detector may be dropped.
-/

namespace MotionFirmware

variable {s : SafetyManager} {code : FaultCode} {now source : UInt32} {c : Evaluation}

/-- A fault is on record, the state is latched and the departure allowance is gone, so that a trip
changes nothing. -/
structure SafetyManager.Absorbed (s : SafetyManager) : Prop where
  code : s.faults.active.code ≠ .none
  latched : s.state = .fault ∨ s.state = .estop
  contact : s.homeContact = false

lemma absorbed_trip (hcode : code ≠ .none) : (trip s code now source).Absorbed where
  code := (faulted_trip hcode).1
  latched := by
    rw [trip_state]
    split_ifs
    · exact Or.inr rfl
    · exact Or.inl rfl
  contact := trip_homeContact

lemma trip_of_absorbed (h : s.Absorbed) : trip s code now source = s := by
  have hraise : faultRaise s.faults code now source = s.faults := if_neg fun hn => h.code hn.1
  have hcontact : { s with homeContact := false } = s := by rw [← h.contact]
  unfold trip
  rw [hraise]
  dsimp only
  rw [if_neg]
  · exact hcontact
  · rintro ⟨hestop, hfault⟩
    exact h.latched.elim hfault hestop

/-- An absorbed manager survives every primitive operation. -/
lemma kept_absorbed : Kept c SafetyManager.Absorbed where
  trip _ _ _ _ hcode := absorbed_trip (Evaluation.ne_none_of_raises hcode)
  estop _ hs := ⟨hs.code, Or.inr rfl, rfl⟩
  internal _ _ hs := { hs with }
  release _ hs := { hs with contact := rfl }
  recovery _ hs _ := { hs with }
  candidate _ _ _ _ hs := { hs with }
  stall _ _ _ := absorbed_trip (by decide)
  condition _ hs := { hs with }

/-- An E-stop without the departure allowance survives every primitive operation. -/
lemma kept_estopped : Kept c fun s => s.state = .estop ∧ s.homeContact = false where
  trip _ _ _ hs _ := ⟨by rw [trip_state, if_pos hs.1], trip_homeContact⟩
  estop _ _ := ⟨rfl, rfl⟩
  internal _ _ hs := hs
  release _ hs := ⟨hs.1, rfl⟩
  recovery _ hs _ := hs
  candidate _ _ _ _ hs := hs
  stall _ hs _ := ⟨by rw [trip_state]; exact if_pos hs.1, trip_homeContact⟩
  condition _ hs := hs

/-- The end of the departure allowance survives every primitive operation. -/
lemma kept_released : Kept c fun s => s.homeContact = false where
  trip _ _ _ _ _ := trip_homeContact
  estop _ _ := rfl
  internal _ _ hs := hs
  release _ _ := rfl
  recovery _ hs _ := hs
  candidate _ _ _ _ hs := hs
  stall _ _ _ := trip_homeContact
  condition _ hs := hs

variable [Rounding]

/-! ### What a check has left when it fired -/

lemma absorbed_of_invalid (h : c.valid = false) :
    (safetyEvaluate s c).Absorbed ∧ (safetyEvaluate s c).internalActive = true := by
  refine ⟨kept_absorbed.of_checkHazards (kept_absorbed.checkHazards ?_), ?_⟩
  · unfold checkValid
    rw [if_pos (by simp [h])]
    exact absorbed_trip (by decide)
  · rw [safetyEvaluate_internalActive, h]
    simp

lemma estopped_of_estop (h : c.inputs.estop = true) :
    (safetyEvaluate s c).state = .estop ∧ (safetyEvaluate s c).homeContact = false := by
  have hkept := kept_estopped (c := c)
  refine hkept.of_checkHazards (hkept.checkRecovery (hkept.checkWatchdog (hkept.checkNegative
    (hkept.checkRelease (hkept.checkPositive ?_)))))
  unfold checkEstop
  rw [if_pos h]
  exact ⟨rfl, rfl⟩

lemma absorbed_of_positive (h : c.inputs.positiveLimit = true) :
    (safetyEvaluate s c).Absorbed := by
  have hkept := kept_absorbed (c := c)
  refine hkept.of_checkHazards (hkept.checkRecovery (hkept.checkWatchdog (hkept.checkNegative
    (hkept.checkRelease ?_))))
  unfold checkPositive
  rw [if_pos h]
  exact absorbed_trip (by decide)

lemma released_of_release (h : (c.valid && !c.inputs.negativeLimit) = true) :
    (safetyEvaluate s c).homeContact = false := by
  have hkept := kept_released (c := c)
  refine hkept.of_checkHazards (hkept.checkRecovery (hkept.checkWatchdog (hkept.checkNegative ?_)))
  unfold checkRelease
  rw [if_pos h]

lemma absorbed_of_unsupervised
    (h : (c.unhealthyMask == 0) = false ∧ safetyStartupGraceMs ≤ c.now - s.startupMs) :
    (safetyEvaluate s c).Absorbed := by
  have hkept := kept_absorbed (c := c)
  refine hkept.of_checkHazards (hkept.checkRecovery ?_)
  have hsame : (recordInputs s c).SameRecord (checkNegative (checkRelease (checkPositive (checkEstop
      (checkValid (recordInputs s c) c) c) c) c) c) := by
    have hsame := kept_sameRecord (c := c) (r := recordInputs s c)
    exact hsame.checkNegative (hsame.checkRelease (hsame.checkPositive (hsame.checkEstop
      (hsame.checkValid (.refl _)))))
  have hfailed : supervisionFailed (checkNegative (checkRelease (checkPositive (checkEstop
      (checkValid (recordInputs s c) c) c) c) c) c) c = true := by
    have hhealthy : (recordInputs s c).healthy = false := h.1
    have hgrace : safetyStartupGraceMs ≤ c.now - (recordInputs s c).startupMs := h.2
    simp only [supervisionFailed, hsame.healthy, hsame.startupMs, hhealthy, hgrace, decide_true,
      Bool.not_false, Bool.and_true]
  unfold checkWatchdog
  rw [if_pos hfailed]
  exact absorbed_trip (by decide)

/-- The manager when the negative limit is checked. -/
def atContact (s : SafetyManager) (c : Evaluation) : SafetyManager :=
  checkRelease (checkPositive (checkEstop (checkValid (recordInputs s c) c) c) c) c

/-- After the negative limit has been checked, the state and the allowance change by a trip only. -/
lemma absorbed_or_kept (h : unexpectedNegative (atContact s c) c = false) :
    (safetyEvaluate s c).Absorbed ∨ (safetyEvaluate s c).state = (atContact s c).state ∧
      (safetyEvaluate s c).homeContact = (atContact s c).homeContact := by
  have hnegative : checkNegative (atContact s c) c = atContact s c := if_neg (by simp [h])
  have hhazards : (checkHazards s c).Absorbed ∨ (checkHazards s c).state = (atContact s c).state ∧
      (checkHazards s c).homeContact = (atContact s c).homeContact := by
    change (checkRecovery (checkWatchdog (checkNegative (atContact s c) c) c) c).Absorbed ∨
      (checkRecovery (checkWatchdog (checkNegative (atContact s c) c) c) c).state = _ ∧
      (checkRecovery (checkWatchdog (checkNegative (atContact s c) c) c) c).homeContact = _
    rw [hnegative, checkRecovery_state, checkRecovery_homeContact]
    unfold checkWatchdog
    split_ifs
    · exact Or.inl (kept_absorbed.checkRecovery (absorbed_trip (by decide)))
    · exact Or.inr ⟨rfl, rfl⟩
  rcases hhazards with habsorbed | hsame
  · exact Or.inl (kept_absorbed.of_checkHazards habsorbed)
  · unfold safetyEvaluate checkStall
    dsimp only
    split_ifs
    · exact Or.inl (kept_absorbed.condition _ (absorbed_trip (by decide)))
    · exact Or.inr hsame
    · exact Or.inr hsame

/-- A negative limit that the repeated evaluation does not expect has tripped, or something after it
has. -/
lemma absorbed_of_negative (h : unexpectedNegative (safetyEvaluate s c) c = true) :
    (safetyEvaluate s c).Absorbed := by
  cases hfirst : unexpectedNegative (atContact s c) c with
  | true =>
    have hkept := kept_absorbed (c := c)
    have hnegative :
        checkNegative (atContact s c) c = trip (atContact s c) .negativeLimit c.now 0 :=
      if_pos hfirst
    have habsorbed : (checkNegative (atContact s c) c).Absorbed := by
      rw [hnegative]
      exact absorbed_trip (by decide)
    exact hkept.of_checkHazards (hkept.checkRecovery (hkept.checkWatchdog habsorbed))
  | false =>
    refine (absorbed_or_kept hfirst).resolve_right fun hsame => ?_
    unfold unexpectedNegative at h hfirst
    rw [hsame.1, hsame.2, hfirst] at h
    exact absurd h nofun

omit [Rounding] in
/-- The recovery evidence is used up. -/
lemma recovered_checkRecovery : recovered (checkRecovery s c) c = false := by
  unfold checkRecovery
  split_ifs with h
  · simp [recovered]
  · simpa using h

/-- A repeated evaluation finds no recovery evidence: a no-motion fault of the first one was
recorded at the position that the second one sees. -/
lemma recovered_safetyEvaluate : recovered (safetyEvaluate s c) c = false := by
  have hhazards : recovered (checkHazards s c) c = false := recovered_checkRecovery
  have hzero : c.displacement c.motion.position = 0 := by simp [Evaluation.displacement]
  unfold safetyEvaluate checkStall
  dsimp only
  split_ifs
  · simp [recovered, recordCondition, hzero]
  · exact hhazards
  · exact hhazards

/-- **The checks of a repeated evaluation** change nothing. -/
lemma checkHazards_repeated : checkHazards (safetyEvaluate s c) c = safetyEvaluate s c := by
  have hrecord : recordInputs (safetyEvaluate s c) c = safetyEvaluate s c := by
    have hsame := sameRecord_safetyEvaluate (s := s) (c := c)
    have hinputs : (safetyEvaluate s c).inputs = c.inputs := hsame.inputs
    have hvalid : (safetyEvaluate s c).inputsValid = c.valid := hsame.inputsValid
    have hmask : (safetyEvaluate s c).unhealthyMask = c.unhealthyMask := hsame.unhealthyMask
    have hhealthy : (safetyEvaluate s c).healthy = (c.unhealthyMask == 0) := hsame.healthy
    unfold recordInputs
    rw [← hinputs, ← hvalid, ← hhealthy, ← hmask]
  have hvalid : checkValid (safetyEvaluate s c) c = safetyEvaluate s c := by
    unfold checkValid
    split_ifs with h
    · obtain ⟨habsorbed, hinternal⟩ := absorbed_of_invalid (s := s) (by simpa using h)
      unfold safetyInternalFault
      rw [← hinternal]
      exact trip_of_absorbed habsorbed
    · rfl
  have hestop : checkEstop (safetyEvaluate s c) c = safetyEvaluate s c := by
    unfold checkEstop
    split_ifs with h
    · obtain ⟨hstate, hcontact⟩ := estopped_of_estop (s := s) h
      unfold safetyEstop
      rw [if_neg (not_not.mpr hstate), ← hcontact, ← hstate]
    · rfl
  have hpositive : checkPositive (safetyEvaluate s c) c = safetyEvaluate s c := by
    unfold checkPositive
    split_ifs with h
    · exact trip_of_absorbed (absorbed_of_positive h)
    · rfl
  have hrelease : checkRelease (safetyEvaluate s c) c = safetyEvaluate s c := by
    unfold checkRelease
    split_ifs with h
    · rw [← released_of_release (s := s) h]
    · rfl
  have hnegative : checkNegative (safetyEvaluate s c) c = safetyEvaluate s c := by
    unfold checkNegative
    split_ifs with h
    · exact trip_of_absorbed (absorbed_of_negative h)
    · rfl
  have hwatchdog : checkWatchdog (safetyEvaluate s c) c = safetyEvaluate s c := by
    unfold checkWatchdog
    split_ifs with h
    · simp only [supervisionFailed, safetyEvaluate_healthy, safetyEvaluate_startupMs,
        Bool.and_eq_true, Bool.not_eq_true', decide_eq_true_eq] at h
      exact trip_of_absorbed (absorbed_of_unsupervised h)
    · rfl
  have hrecovery : checkRecovery (safetyEvaluate s c) c = safetyEvaluate s c :=
    if_neg (by simp [recovered_safetyEvaluate])
  unfold checkHazards
  rw [hrecord, hvalid, hestop, hpositive, hrelease, hnegative, hwatchdog, hrecovery]

/-! ### The repeated evaluation -/

omit [Rounding] in
/-- Checks that leave the state in `IDLE` have found it there at the negative limit. -/
lemma stateAtContact_of_idle (h : (checkHazards s c).state = .idle) :
    stateAtContact s c = .idle := by
  by_contra hne
  have hkept := kept_latched (c := c)
  exact hkept.checkRecovery (hkept.checkWatchdog (hkept.checkNegative hne)) h

/-- The no-motion detector of an evaluation that leaves the state in `IDLE` waits for the
timeout. -/
lemma checkStall_waits {contact : AppState} (hidle : (checkStall s c contact).state = .idle)
    (hq : qualifying s c contact = true) :
    checkStall s c contact = { s with
      candidate := true
      candidateStartMs := candidateStart s c
      candidateMs := c.now - candidateStart s c } ∧
    ¬ safetyStallTimeoutMs ≤ c.now - candidateStart s c := by
  unfold checkStall at hidle ⊢
  rw [if_pos hq] at hidle ⊢
  dsimp only at hidle ⊢
  split_ifs at hidle ⊢ with hlate
  · exact absurd hidle trip_state_ne_idle
  · exact ⟨rfl, hlate⟩

/-- The no-motion detector of a repeated evaluation does not trip: the candidate of the first
evaluation has not grown. -/
lemma checkStall_repeated : ∃ b start ms,
    checkStall (safetyEvaluate s c) c (stateAtContact (safetyEvaluate s c) c) =
      { safetyEvaluate s c with candidate := b, candidateStartMs := start, candidateMs := ms } := by
  by_cases hq : qualifying (safetyEvaluate s c) c (stateAtContact (safetyEvaluate s c) c) = true
  · have hidle : (safetyEvaluate s c).state = .idle := by
      simp only [qualifying, Bool.and_eq_true, beq_iff_eq] at hq
      exact hq.1.1.1.1.1
    have hstall : (checkStall (checkHazards s c) c (stateAtContact s c)).state = .idle := hidle
    have hhazards : (checkHazards s c).state = .idle := by
      obtain ⟨b, start, ms, heq⟩ := checkStall_of_idle (stateAtContact s c) hstall
      rw [heq] at hstall
      exact hstall
    have hfirst := stateAtContact_of_idle hhazards
    have hsecond : stateAtContact (safetyEvaluate s c) c = .idle :=
      stateAtContact_of_idle (by rw [checkHazards_repeated]; exact hidle)
    have hqualifying : qualifying (checkHazards s c) c (stateAtContact s c) = true := by
      rw [hsecond] at hq
      rw [hfirst]
      unfold qualifying at hq ⊢
      rw [hidle] at hq
      rw [hhazards]
      exact hq
    obtain ⟨heq, hearly⟩ := checkStall_waits hstall hqualifying
    have hcandidate :
        candidateStart (safetyEvaluate s c) c = candidateStart (checkHazards s c) c := by
      have htaken : safetyEvaluate s c = recordCondition { checkHazards s c with
          candidate := true
          candidateStartMs := candidateStart (checkHazards s c) c
          candidateMs := c.now - candidateStart (checkHazards s c) c } c := by
        rw [safetyEvaluate, heq]
      rw [htaken]
      rfl
    refine ⟨true, candidateStart (checkHazards s c) c,
      c.now - candidateStart (checkHazards s c) c, ?_⟩
    unfold checkStall
    rw [if_pos hq, hcandidate]
    exact if_neg hearly
  · refine ⟨false, (safetyEvaluate s c).candidateStartMs, 0, ?_⟩
    unfold checkStall
    exact if_neg hq

/-- A repeated evaluation changes at most the candidate of the no-motion detector. -/
theorem safetyEvaluate_repeated (s : SafetyManager) (c : Evaluation) : ∃ b start ms,
    safetyEvaluate (safetyEvaluate s c) c =
      { safetyEvaluate s c with candidate := b, candidateStartMs := start, candidateMs := ms } := by
  obtain ⟨b, start, ms, hstall⟩ := checkStall_repeated (s := s) (c := c)
  refine ⟨b, start, ms, ?_⟩
  rw [safetyEvaluate, checkHazards_repeated, hstall]
  -- the condition of the active fault was recorded from the same flags
  rfl

/-- Two managers give the same verdict: the state, the fault records, the latches and what was
sampled agree. -/
structure SafetyManager.SameVerdict (s s' : SafetyManager) : Prop where
  state : s'.state = s.state
  active : s'.faults.active = s.faults.active
  history : s'.faults.history = s.faults.history
  detectionMs : s'.detectionMs = s.detectionMs
  homeContact : s'.homeContact = s.homeContact
  encoderRecoveryRequired : s'.encoderRecoveryRequired = s.encoderRecoveryRequired
  faultPosition : s'.faultPosition = s.faultPosition
  internalActive : s'.internalActive = s.internalActive
  inputs : s'.inputs = s.inputs
  inputsValid : s'.inputsValid = s.inputsValid
  healthy : s'.healthy = s.healthy
  unhealthyMask : s'.unhealthyMask = s.unhealthyMask

/-- **Repeated evaluations are harmless.**  Whatever the manager is, an evaluation with the
arguments of the one before it gives the verdict that that one gave. -/
theorem repeated_evaluation_harmless (s : SafetyManager) (c : Evaluation) :
    (safetyEvaluate s c).SameVerdict (safetyEvaluate (safetyEvaluate s c) c) := by
  obtain ⟨b, start, ms, heq⟩ := safetyEvaluate_repeated s c
  rw [heq]
  exact ⟨rfl, rfl, rfl, rfl, rfl, rfl, rfl, rfl, rfl, rfl, rfl, rfl⟩

end MotionFirmware
