import MotionFirmware.Foundation.Machine
import MotionFirmware.Safety.SafetyChecks

/-!
# Histories of the safety manager

The safety manager as a machine of its own: its actions are the calls of its operations, in any
order and with any arguments.  `SafetyManager.replay` is the manager after a history of calls.  What
holds after every history is proved here, without reference to the tasks that make the calls; the
runtime records its calls, and its manager is the one that its history produces.
-/

namespace MotionFirmware

/-- A call of the safety manager, with its arguments; an evaluation also with its true time. -/
inductive SafetyCall where
  | evaluate (c : Evaluation) (time : ℕ)
  | estop (now : UInt32)
  | internalFault (now : UInt32)
  | homingTimeout (now : UInt32)
  | reset
  /-- The assignment `home_contact = true` of a completed `HOME`. -/
  | grantContact

variable [Rounding]

/-- The manager after one more call. -/
def SafetyManager.apply (call : SafetyCall) (s : SafetyManager) : SafetyManager :=
  match call with
  | .evaluate c _ => safetyEvaluate s c
  | .estop now => safetyEstop s now
  | .internalFault now => safetyInternalFault s now
  | .homingTimeout now => safetyHomingTimeout s now
  | .reset => (safetyReset s).getD s
  | .grantContact => { s with homeContact := true }

/-- The manager after a history of calls. -/
def SafetyManager.replay (s : SafetyManager) (calls : List SafetyCall) : SafetyManager :=
  Machine.run SafetyManager.apply s calls

namespace SafetyManager

variable {s : SafetyManager} {calls : List SafetyCall} {call : SafetyCall}

@[simp] lemma replay_nil : s.replay [] = s := rfl

@[simp] lemma replay_append {more : List SafetyCall} :
    s.replay (calls ++ more) = (s.replay calls).replay more :=
  Machine.run_append

@[simp] lemma replay_cons : s.replay (call :: calls) = (apply call s).replay calls := rfl

end SafetyManager

/-! ### The part that the calls determine -/

/-- The manager without the fields that the runtime keeps in it: recorded duties, the time of zero
output, and the counters of aborted moves and watchdog refreshes. -/
def SafetyManager.core (s : SafetyManager) : SafetyManager :=
  { s with
    zeroMs := 0, watchdogRefreshes := 0, abortedMoves := 0
    requestedPwm := 0, appliedPwm := 0, requestedAtTrip := 0 }

section Core

variable {s : SafetyManager} {c : Evaluation} {code : FaultCode} {now source : UInt32}

omit [Rounding] in
lemma core_trip : (trip s code now source).core = trip s.core code now source := by
  unfold trip
  rw [show s.core.state = s.state from rfl]
  dsimp only
  split_ifs <;> rfl

omit [Rounding] in
lemma core_checkValid : (checkValid s c).core = checkValid s.core c := by
  unfold checkValid
  split_ifs
  · exact core_trip
  · rfl

omit [Rounding] in
lemma core_checkEstop : (checkEstop s c).core = checkEstop s.core c := by
  unfold checkEstop
  split_ifs <;> rfl

omit [Rounding] in
lemma core_checkPositive : (checkPositive s c).core = checkPositive s.core c := by
  unfold checkPositive
  split_ifs
  · exact core_trip
  · rfl

omit [Rounding] in
lemma core_checkRelease : (checkRelease s c).core = checkRelease s.core c := by
  unfold checkRelease
  split_ifs <;> rfl

omit [Rounding] in
lemma core_checkNegative : (checkNegative s c).core = checkNegative s.core c := by
  unfold checkNegative
  rw [show unexpectedNegative s.core c = unexpectedNegative s c from rfl]
  split_ifs
  · exact core_trip
  · rfl

omit [Rounding] in
lemma core_checkWatchdog : (checkWatchdog s c).core = checkWatchdog s.core c := by
  unfold checkWatchdog
  rw [show supervisionFailed s.core c = supervisionFailed s c from rfl]
  split_ifs
  · exact core_trip
  · rfl

omit [Rounding] in
lemma core_checkRecovery : (checkRecovery s c).core = checkRecovery s.core c := by
  unfold checkRecovery
  rw [show recovered s.core c = recovered s c from rfl]
  split_ifs <;> rfl

lemma core_checkStall {contact : AppState} :
    (checkStall s c contact).core = checkStall s.core c contact := by
  unfold checkStall
  rw [show qualifying s.core c contact = qualifying s c contact from rfl,
    show candidateStart s.core c = candidateStart s c from rfl]
  dsimp only
  split_ifs
  · exact core_trip
  · rfl
  · rfl

/-- An evaluation does not look at the fields of the runtime. -/
lemma core_safetyEvaluate : (safetyEvaluate s c).core = safetyEvaluate s.core c := by
  have hrelease : ∀ s, (checkRelease (checkPositive (checkEstop (checkValid
      (recordInputs s c) c) c) c) c).core = checkRelease (checkPositive (checkEstop (checkValid
      (recordInputs s.core c) c) c) c) c := by
    intro s
    rw [core_checkRelease, core_checkPositive, core_checkEstop, core_checkValid]
    rfl
  have hcontact : stateAtContact s.core c = stateAtContact s c := by
    unfold stateAtContact
    rw [← hrelease]
    rfl
  have hhazards : (checkHazards s c).core = checkHazards s.core c := by
    unfold checkHazards
    rw [core_checkRecovery, core_checkWatchdog, core_checkNegative, hrelease]
  unfold safetyEvaluate
  rw [hcontact, ← hhazards, ← core_checkStall]
  rfl

omit [Rounding] in
lemma core_safetyReset : (safetyReset s).map SafetyManager.core = safetyReset s.core := by
  unfold safetyReset
  rw [show s.core.inputsValid = s.inputsValid from rfl, show s.core.inputs = s.inputs from rfl,
    show s.core.healthy = s.healthy from rfl, show s.core.faults = s.faults from rfl,
    show s.core.encoderRecoveryRequired = s.encoderRecoveryRequired from rfl,
    show s.core.internalActive = s.internalActive from rfl]
  split_ifs
  · rfl
  · rw [Option.map_map]
    rfl

/-- **The calls determine the core.**  Every call acts on the core of the manager alone. -/
theorem core_apply (call : SafetyCall) :
    (SafetyManager.apply call s).core = SafetyManager.apply call s.core := by
  cases call with
  | evaluate => exact core_safetyEvaluate
  | estop => rfl
  | internalFault => exact core_trip
  | homingTimeout => exact core_trip
  | reset =>
    simp only [SafetyManager.apply]
    rw [← core_safetyReset]
    cases safetyReset s <;> rfl
  | grantContact => rfl

end Core

/-! ### Consistent managers -/

/-- What holds of the manager between calls: a fault record means a latched state, and the
departure allowance exists in `IDLE` only. -/
structure SafetyManager.Consistent (s : SafetyManager) : Prop where
  settled : s.Settled
  latched : s.faults.active.code ≠ .none → s.state ≠ .idle
  contact : s.homeContact = true → s.state = .idle

section Consistent

variable {s : SafetyManager} {c : Evaluation} {code : FaultCode} {now source : UInt32}

omit [Rounding] in
lemma consistent_safetyInit (now : UInt32) : (safetyInit now).Consistent :=
  ⟨Or.inl rfl, fun h => absurd rfl h, fun _ => rfl⟩

omit [Rounding] in
lemma consistent_trip : (trip s code now source).Consistent :=
  ⟨settled_trip, fun _ => trip_state_ne_idle, fun h => by simp at h⟩

/-- An evaluation keeps a manager consistent. -/
lemma SafetyManager.Consistent.safetyEvaluate (h : s.Consistent) :
    (safetyEvaluate s c).Consistent := by
  have hkept : Kept c SafetyManager.Consistent :=
    { trip := fun _ _ _ _ _ => consistent_trip
      estop := fun _ _ => ⟨Or.inr (Or.inr rfl), fun _ => nofun, fun h => by simp [safetyEstop] at h⟩
      internal := fun _ _ hs => { hs with }
      release := fun _ hs => { hs with contact := fun h => by simp at h }
      recovery := fun _ hs _ => { hs with }
      candidate := fun _ _ _ _ hs => { hs with }
      stall := fun _ _ _ => consistent_trip
      condition := fun _ hs => { hs with } }
  exact hkept.safetyEvaluate { h with }

/-- Every call keeps a manager consistent, provided the allowance is granted in `IDLE` only. -/
theorem SafetyManager.Consistent.apply {call : SafetyCall} (h : s.Consistent)
    (hgrant : call = .grantContact → s.state = .idle) : (apply call s).Consistent := by
  cases call with
  | evaluate => exact h.safetyEvaluate
  | estop => exact ⟨Or.inr (Or.inr rfl), fun _ => nofun,
      fun h => by simp [SafetyManager.apply, safetyEstop] at h⟩
  | internalFault => exact consistent_trip
  | homingTimeout => exact consistent_trip
  | reset =>
    cases hr : safetyReset s with
    | none => simpa [SafetyManager.apply, hr] using h
    | some s' =>
      obtain ⟨-, rfl⟩ := safetyReset_eq_some.mp hr
      simp only [SafetyManager.apply, hr, Option.getD_some]
      exact ⟨Or.inl rfl, fun h => absurd rfl h, fun _ => rfl⟩
  | grantContact => exact ⟨h.settled, h.latched, fun _ => hgrant rfl⟩

end Consistent

/-! ### The departure allowance in a history -/

/-- The call is an evaluation that samples the negative switch released. -/
def SafetyCall.releases : SafetyCall → Bool
  | .evaluate c _ => c.valid && !c.inputs.negativeLimit
  | _ => false

/-- The allowance is granted in `IDLE` only. -/
def GrantedInIdle (call : SafetyCall) (s : SafetyManager) : Prop :=
  call = .grantContact → s.state = .idle

/-- The allowance survives the call: the state is `IDLE` after it, and it does not sample the
switch released. -/
def KeepsContact (call : SafetyCall) (s : SafetyManager) : Prop :=
  (SafetyManager.apply call s).state = .idle ∧ call.releases = false

/-- An allowance after a call that does not grant it was there before, and survived the call. -/
lemma contact_of_apply {call : SafetyCall} {s : SafetyManager} (hs : s.Consistent)
    (hcall : call ≠ .grantContact) (h : (SafetyManager.apply call s).homeContact = true) :
    s.homeContact = true ∧ KeepsContact call s := by
  cases call with
  | evaluate c time =>
    obtain ⟨hidle, hcontact, hneg⟩ := safetyEvaluate_homeContact hs.contact h
    exact ⟨hcontact, hidle, by simp [SafetyCall.releases, hneg]⟩
  | estop => simp [SafetyManager.apply, safetyEstop] at h
  | internalFault => simp [SafetyManager.apply, safetyInternalFault] at h
  | homingTimeout => simp [SafetyManager.apply, safetyHomingTimeout] at h
  | reset =>
    cases hr : safetyReset s with
    | none =>
      simp only [SafetyManager.apply, hr, Option.getD_none] at h
      exact ⟨h, by simpa [SafetyManager.apply, hr] using hs.contact h, rfl⟩
    | some s' =>
      obtain ⟨-, rfl⟩ := safetyReset_eq_some.mp hr
      simp only [SafetyManager.apply, hr, Option.getD_some] at h
      exact ⟨h, by simp [SafetyManager.apply, hr, SafetyManager.cleared], rfl⟩
  | grantContact => exact absurd rfl hcall

/-- **Provenance of the allowance.**  An allowance after a history was granted by one of its calls,
and since then every call left the state in `IDLE` and none sampled the switch released. -/
theorem contact_history {s : SafetyManager} (hs : s.Consistent) (hnone : s.homeContact = false)
    {calls : List SafetyCall}
    (hgrant : Machine.Along SafetyManager.apply GrantedInIdle s calls)
    (h : (s.replay calls).homeContact = true) :
    ∃ before after, calls = before ++ .grantContact :: after ∧
      Machine.Along SafetyManager.apply KeepsContact
        (s.replay (before ++ [.grantContact])) after := by
  induction calls using List.reverseRecOn with
  | nil => simp [hnone] at h
  | append_singleton calls call ih =>
    obtain ⟨hcalls, hlast⟩ := Machine.along_append.mp hgrant
    have hcons : (s.replay calls).Consistent :=
      Machine.run_invariant (fun _ _ hv hg => hv.apply hg) hs hcalls
    by_cases hcall : call = .grantContact
    · exact ⟨calls, [], by rw [hcall], trivial⟩
    · rw [SafetyManager.replay_append] at h
      obtain ⟨hbefore, hkeeps⟩ := contact_of_apply hcons hcall h
      obtain ⟨before, after, rfl, halong⟩ := ih hcalls hbefore
      refine ⟨before, after ++ [call], by simp, Machine.along_append.mpr ⟨halong, ?_, trivial⟩⟩
      simpa [SafetyManager.replay] using hkeeps

/-! ### Integrity failures in a history -/

/-- The call is or contains a call of `safety_internal_fault`. -/
def SafetyCall.integrityFailure : SafetyCall → Bool
  | .internalFault _ => true
  | .evaluate c _ => !c.valid
  | _ => false

lemma apply_internalActive (call : SafetyCall) (s : SafetyManager) :
    (SafetyManager.apply call s).internalActive = (s.internalActive || call.integrityFailure) := by
  cases call with
  | evaluate => exact safetyEvaluate_internalActive
  | internalFault =>
    simp [SafetyManager.apply, safetyInternalFault, SafetyCall.integrityFailure]
  | homingTimeout => simp [SafetyManager.apply, safetyHomingTimeout, SafetyCall.integrityFailure]
  | reset =>
    cases hr : safetyReset s with
    | none => simp [SafetyManager.apply, hr, SafetyCall.integrityFailure]
    | some s' =>
      obtain ⟨-, rfl⟩ := safetyReset_eq_some.mp hr
      simp [SafetyManager.apply, hr, SafetyCall.integrityFailure, SafetyManager.cleared]
  | _ => simp [SafetyManager.apply, SafetyCall.integrityFailure, safetyEstop]

/-- **Integrity failures are never forgotten.**  The latch is set exactly when the history contains
an integrity failure. -/
theorem internalActive_history (s : SafetyManager) (calls : List SafetyCall) :
    (s.replay calls).internalActive =
      (s.internalActive || calls.any SafetyCall.integrityFailure) := by
  induction calls generalizing s with
  | nil => simp
  | cons call calls ih =>
    rw [SafetyManager.replay_cons, ih, apply_internalActive]
    simp [Bool.or_assoc]

/-! ### Where an active fault comes from -/

/-- The faults that a call may raise. -/
def SafetyCall.raises : SafetyCall → FaultCode → Bool
  | .evaluate c _, code => c.raises code
  | .internalFault _, code => code == .internal
  | .homingTimeout _, code => code == .homingTimeout
  | _, _ => false

lemma apply_active_code (call : SafetyCall) (s : SafetyManager)
    (hcode : (SafetyManager.apply call s).faults.active.code ≠ .none) :
    (SafetyManager.apply call s).faults.active.code = s.faults.active.code ∨
      call.raises (SafetyManager.apply call s).faults.active.code = true := by
  have htrip : ∀ (s : SafetyManager) code now,
      (trip s code now 0).faults.active.code = s.faults.active.code ∨
        (trip s code now 0).faults.active.code = code := by
    intro s code now
    rw [trip_faults]
    rcases faultRaise_active s.faults with hkeep | ⟨-, hnew⟩
    · exact Or.inl (by rw [hkeep])
    · exact Or.inr hnew
  cases call with
  | evaluate => exact safetyEvaluate_active_code
  | internalFault now =>
    exact (htrip { s with internalActive := true } .internal now).imp id
      fun h => beq_iff_eq.mpr h
  | homingTimeout now => exact (htrip s .homingTimeout now).imp id fun h => beq_iff_eq.mpr h
  | reset =>
    cases hr : safetyReset s with
    | none => exact Or.inl (by simp [SafetyManager.apply, hr])
    | some s' =>
      obtain ⟨-, rfl⟩ := safetyReset_eq_some.mp hr
      simp [SafetyManager.apply, hr, SafetyManager.cleared, FaultManager.cleared] at hcode
  | _ => exact Or.inl rfl

/-- **Origin of a fault.**  A fault that is active after a history was active before it, or a call
of the history may raise it. -/
theorem active_history (s : SafetyManager) (calls : List SafetyCall)
    (hcode : (s.replay calls).faults.active.code ≠ .none) :
    (s.replay calls).faults.active.code = s.faults.active.code ∨
      ∃ call ∈ calls, call.raises (s.replay calls).faults.active.code = true := by
  induction calls using List.reverseRecOn with
  | nil => exact Or.inl rfl
  | append_singleton calls call ih =>
    have hlast : s.replay (calls ++ [call]) = SafetyManager.apply call (s.replay calls) := by
      rw [SafetyManager.replay_append]
      rfl
    rw [hlast] at hcode ⊢
    rcases apply_active_code call (s.replay calls) hcode with hkeep | hraise
    · rw [hkeep] at hcode ⊢
      refine (ih hcode).imp id fun ⟨call', hmem, hraise⟩ => ?_
      exact ⟨call', List.mem_append_left _ hmem, hraise⟩
    · exact Or.inr ⟨call, by simp, hraise⟩

/-! ### Recovery from a no-motion fault -/

/-- The manager waits for the encoder to move away from `position`. -/
structure SafetyManager.Awaits (position : Int32) (s : SafetyManager) : Prop where
  required : s.encoderRecoveryRequired = true
  position : s.faultPosition = position
  latched : s.state ≠ .idle

/-- The call is an evaluation with valid feedback at a distance of at least two counts. -/
def SafetyCall.recovers (position : Int32) : SafetyCall → Bool
  | .evaluate c _ => c.motion.feedbackValid && decide (2 ≤ c.displacement position)
  | _ => false

/-- An evaluation that ends in the trip of the no-motion detector leaves the manager waiting. -/
lemma awaits_of_stalled {s : SafetyManager} {c : Evaluation} (h : stalled s c = true) :
    (safetyEvaluate s c).Awaits c.motion.position := by
  simp only [stalled, Bool.and_eq_true, decide_eq_true_eq] at h
  have hstall : checkStall (checkHazards s c) c (stateAtContact s c) =
      trip { checkHazards s c with
        candidate := true
        candidateStartMs := candidateStart (checkHazards s c) c
        candidateMs := c.now - candidateStart (checkHazards s c) c
        encoderRecoveryRequired := true
        faultPosition := c.motion.position } .noMotionUnderCommand c.now 0 := by
    unfold checkStall
    rw [if_pos h.1]
    exact if_pos h.2
  have heq : safetyEvaluate s c = recordCondition (checkStall (checkHazards s c) c
    (stateAtContact s c)) c := rfl
  rw [hstall] at heq
  refine ⟨?_, ?_, ?_⟩
  · rw [heq]
    exact trip_encoderRecoveryRequired
  · rw [heq]
    exact trip_faultPosition
  · rw [heq]
    exact trip_state_ne_idle

/-- A waiting manager keeps waiting for the same position, unless the call recovers it. -/
lemma awaits_apply {position : Int32} (call : SafetyCall) {s : SafetyManager}
    (h : s.Awaits position) :
    (SafetyManager.apply call s).Awaits position ∨ call.recovers position = true := by
  have htrip : ∀ (s : SafetyManager) code now source, s.Awaits position →
      (trip s code now source).Awaits position := fun s code now source hs =>
    ⟨trip_encoderRecoveryRequired.trans hs.required, trip_faultPosition.trans hs.position,
      trip_state_ne_idle⟩
  cases call with
  | evaluate c time =>
    have hkept : Kept c fun s => s.Awaits position ∨
        (SafetyCall.evaluate c time).recovers position = true :=
      { trip := fun _ _ _ hs _ => hs.imp_left (htrip _ _ _ _)
        estop := fun _ hs => hs.imp_left fun hs => ⟨hs.required, hs.position, nofun⟩
        internal := fun _ _ hs => hs.imp_left fun hs => { hs with }
        release := fun _ hs => hs.imp_left fun hs => { hs with }
        recovery := fun s hs hr => by
          refine Or.inr (hs.elim (fun hs => ?_) id)
          simp only [recovered, Bool.and_eq_true, hs.position] at hr
          simp only [SafetyCall.recovers, Bool.and_eq_true]
          exact ⟨hr.1.2, hr.2⟩
        candidate := fun _ _ _ _ hs => hs.imp_left fun hs => { hs with }
        stall := fun _ hs hidle => hs.imp_left fun hs => absurd hidle hs.latched
        condition := fun _ hs => hs.imp_left fun hs => { hs with } }
    exact hkept.safetyEvaluate (Or.inl { h with })
  | estop => exact Or.inl ⟨h.required, h.position, nofun⟩
  | internalFault => exact Or.inl (htrip _ _ _ _ { h with })
  | homingTimeout => exact Or.inl (htrip _ _ _ _ h)
  | reset =>
    have hnone : safetyReset s = none := by
      by_contra hne
      obtain ⟨s', hs'⟩ := Option.ne_none_iff_exists'.mp hne
      have := (safetyReset_eq_some.mp hs').1.recovery
      rw [h.required] at this
      exact absurd this (by decide)
    exact Or.inl (by simpa [SafetyManager.apply, hnone] using h)
  | grantContact => exact Or.inl { h with }

/-- **No-motion faults are never forgotten.**  Once no recovery is required any more, every trip of
the no-motion detector was followed by an evaluation with valid feedback at a distance of at least
two counts from the recorded position. -/
theorem recovery_history {s : SafetyManager} {before after : List SafetyCall} {c : Evaluation}
    {time : ℕ} (hstall : stalled (s.replay before) c = true)
    (hdone : (s.replay (before ++ .evaluate c time :: after)).encoderRecoveryRequired = false) :
    ∃ call ∈ after, call.recovers c.motion.position = true := by
  have hwait : ∀ (after : List SafetyCall) (s : SafetyManager), s.Awaits c.motion.position →
      (s.replay after).encoderRecoveryRequired = false →
      ∃ call ∈ after, call.recovers c.motion.position = true := by
    intro after
    induction after with
    | nil =>
      intro s hs hdone
      rw [SafetyManager.replay_nil, hs.required] at hdone
      exact absurd hdone (by decide)
    | cons call after ih =>
      intro s hs hdone
      rcases awaits_apply call hs with hnext | hrec
      · obtain ⟨call', hmem, hrec⟩ := ih _ hnext hdone
        exact ⟨call', by simp [hmem], hrec⟩
      · exact ⟨call, by simp, hrec⟩
  rw [SafetyManager.replay_append, SafetyManager.replay_cons] at hdone
  exact hwait after _ (awaits_of_stalled hstall) hdone

end MotionFirmware
