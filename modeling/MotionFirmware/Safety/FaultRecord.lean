import MotionFirmware.Safety.SafetyHistory

/-!
# The fault record

The state, the active fault and the two recovery latches are written by different operations of the
safety manager, and one evaluation may trip several times.  After every history they fit together:
a latch, a recorded fault or a requirement that is still open excludes `IDLE`, and `FAULT` always
has its reason on record.  The first fault is retained until a reset succeeds.

`safety_reset` calls `fault_reset` on the manager's own record as the last operand of a
short-circuit condition, so that a refusal could leave a trace.  `safetyResetCall` follows this
order of effects, and `safetyReset` is what it amounts to.
-/

namespace MotionFirmware

variable {s : SafetyManager} {c : Evaluation} {code : FaultCode} {now source : UInt32}

/-! ### The reset and its effects -/

/-- `fault_reset`, with the record that it leaves. -/
def faultResetCall (m : FaultManager) : Bool × FaultManager :=
  if m.active.conditionActive then (false, m)
  else
    let m := if m.active.code ≠ .none then { m with history := m.active } else m
    (true, { m with active := {} })

/-- `safety_reset`, with the manager that it leaves. -/
def safetyResetCall (s : SafetyManager) : Bool × SafetyManager :=
  if !s.inputsValid || s.inputs.estop || s.inputs.positiveLimit || s.inputs.negativeLimit ||
      !s.healthy || s.encoderRecoveryRequired || s.internalActive then (false, s)
  else
    let reset := faultResetCall s.faults
    let s := { s with faults := reset.2 }
    if !reset.1 then (false, s)
    else (true, { s with state := .idle, candidate := false, candidateMs := 0 })

/-- A refused `fault_reset` leaves the record alone; an accepted one moves the active fault. -/
lemma faultResetCall_eq (m : FaultManager) :
    faultResetCall m = match faultReset m with
      | none => (false, m)
      | some m' => (true, m') := by
  unfold faultResetCall faultReset
  split_ifs <;> rfl

/-- A refused `safety_reset` leaves the manager alone. -/
theorem safetyResetCall_eq (s : SafetyManager) :
    safetyResetCall s = match safetyReset s with
      | none => (false, s)
      | some s' => (true, s') := by
  unfold safetyResetCall safetyReset
  dsimp only
  rw [faultResetCall_eq]
  split_ifs with hguard hrefused
  · rfl
  · cases hreset : faultReset s.faults with
    | none => rfl
    | some m => simp [hreset] at hrefused
  · cases hreset : faultReset s.faults with
    | none => simp [hreset] at hrefused
    | some m => rfl

/-! ### The first fault -/

/-- The same fault: its code, its time and its source, whether or not its condition is present. -/
structure FaultRecord.SameFault (r r' : FaultRecord) : Prop where
  code : r'.code = r.code
  timestampMs : r'.timestampMs = r.timestampMs
  source : r'.source = r.source

lemma FaultRecord.SameFault.refl (r : FaultRecord) : r.SameFault r := ⟨rfl, rfl, rfl⟩

/-- A trip retains the fault that is active. -/
lemma sameFault_trip {r : FaultRecord} (hr : r.code ≠ .none) (h : r.SameFault s.faults.active) :
    r.SameFault (trip s code now source).faults.active := by
  have hne : ¬ (s.faults.active.code = .none ∧ code ≠ .none) := by
    intro hnone
    rw [h.code] at hnone
    exact hr hnone.1
  rw [trip_faults, faultRaise, if_neg hne]
  exact h

/-- Every primitive operation of an evaluation retains the fault that is active. -/
lemma kept_sameFault {r : FaultRecord} (hr : r.code ≠ .none) :
    Kept c fun s => r.SameFault s.faults.active where
  trip _ _ _ hs _ := sameFault_trip hr hs
  estop _ hs := hs
  internal _ _ hs := hs
  release _ hs := hs
  recovery _ hs _ := hs
  candidate _ _ _ _ hs := hs
  stall _ hs _ := sameFault_trip hr hs
  condition _ hs := ⟨hs.code, hs.timestampMs, hs.source⟩

/-! ### The joint invariant -/

/-- The state, the active fault and the recovery latches fit together. -/
structure SafetyManager.Sound (s : SafetyManager) : Prop where
  settled : s.Settled
  reason : s.state = .fault → s.faults.active.code ≠ .none
  fault : s.faults.active.code ≠ .none → s.state ≠ .idle
  recovery : s.encoderRecoveryRequired = true → s.state ≠ .idle
  internal : s.internalActive = true → s.state ≠ .idle

lemma sound_safetyInit (now : UInt32) : (safetyInit now).Sound :=
  ⟨Or.inl rfl, nofun, fun h => absurd rfl h, nofun, nofun⟩

/-- A trip leaves a latched state with a fault on record, whatever the manager was. -/
lemma sound_trip (hcode : code ≠ .none) : (trip s code now source).Sound where
  settled := settled_trip
  reason _ := by
    rw [trip_faults]
    exact faultRaise_active_ne hcode
  fault _ := trip_state_ne_idle
  recovery _ := trip_state_ne_idle
  internal _ := trip_state_ne_idle

lemma sound_safetyEstop : (safetyEstop s now).Sound :=
  ⟨Or.inr (Or.inr rfl), nofun, fun _ => nofun, fun _ => nofun, fun _ => nofun⟩

/-- What an evaluation keeps step by step; its integrity latch is set just before a trip. -/
structure SafetyManager.SoundUpToTrip (s : SafetyManager) : Prop where
  settled : s.Settled
  reason : s.state = .fault → s.faults.active.code ≠ .none
  fault : s.faults.active.code ≠ .none → s.state ≠ .idle
  recovery : s.encoderRecoveryRequired = true → s.state ≠ .idle

lemma SafetyManager.Sound.upToTrip (h : s.Sound) : s.SoundUpToTrip := { h with }

/-- Every primitive operation of an evaluation keeps the state, the record and the recovery
requirement together. -/
lemma kept_soundUpToTrip : Kept c SafetyManager.SoundUpToTrip where
  trip _ _ _ _ hcode := (sound_trip (Evaluation.ne_none_of_raises hcode)).upToTrip
  estop _ _ := sound_safetyEstop.upToTrip
  internal _ _ hs := { hs with }
  release _ hs := { hs with }
  recovery _ hs _ := ⟨hs.settled, hs.reason, hs.fault, nofun⟩
  candidate _ _ _ _ hs := { hs with }
  stall _ _ _ := (sound_trip (by decide)).upToTrip
  condition _ hs := { hs with }

variable [Rounding]

/-- An evaluation that leaves the integrity latch set does not leave `IDLE`. -/
lemma safetyEvaluate_internal (h : s.internalActive = true → s.state ≠ .idle)
    (hactive : (safetyEvaluate s c).internalActive = true) :
    (safetyEvaluate s c).state ≠ .idle := by
  intro hidle
  have hclean := clean_of_safetyEvaluate hidle
  rw [safetyEvaluate_internalActive, hclean.valid, Bool.not_true, Bool.or_false] at hactive
  exact h hactive hclean.state

/-- An evaluation keeps a manager sound. -/
lemma SafetyManager.Sound.safetyEvaluate (h : s.Sound) : (safetyEvaluate s c).Sound := by
  have hkept := kept_soundUpToTrip.safetyEvaluate (s := s) (c := c) { h.upToTrip with }
  exact { hkept with internal := safetyEvaluate_internal h.internal }

/-- **Step lemma.**  Every call keeps a manager sound. -/
theorem SafetyManager.Sound.apply (h : s.Sound) (call : SafetyCall) :
    (SafetyManager.apply call s).Sound := by
  cases call with
  | evaluate => exact h.safetyEvaluate
  | estop => exact sound_safetyEstop
  | internalFault => exact sound_trip (by decide)
  | homingTimeout => exact sound_trip (by decide)
  | reset =>
    cases hr : safetyReset s with
    | none => simpa [SafetyManager.apply, hr] using h
    | some s' =>
      obtain ⟨hresettable, rfl⟩ := safetyReset_eq_some.mp hr
      have happly : SafetyManager.apply .reset s = s.cleared := by simp [SafetyManager.apply, hr]
      rw [happly]
      have hrecovery : s.cleared.encoderRecoveryRequired = false := hresettable.recovery
      have hinternal : s.cleared.internalActive = false := hresettable.internal
      refine ⟨Or.inl rfl, (fun h => by cases h), fun hcode => absurd rfl hcode, ?_, ?_⟩
      · rw [hrecovery]
        simp
      · rw [hinternal]
        simp
  | grantContact => exact { h with }

/-- Every history leaves a sound manager. -/
theorem sound_history (now : UInt32) (calls : List SafetyCall) :
    ((safetyInit now).replay calls).Sound :=
  Machine.run_invariant_of_forall (fun call _ hs => hs.apply call) (sound_safetyInit now)

/-! ### Between resets -/

/-- The call is not a reset that succeeds. -/
def KeepsFault (call : SafetyCall) (s : SafetyManager) : Prop :=
  call = .reset → (safetyResetCall s).1 = false

/-- A call that does not reset the manager retains the active fault. -/
lemma sameFault_apply {call : SafetyCall} {r : FaultRecord} (hr : r.code ≠ .none)
    (hcall : KeepsFault call s) (h : r.SameFault s.faults.active) :
    r.SameFault (SafetyManager.apply call s).faults.active := by
  cases call with
  | evaluate c => exact (kept_sameFault hr).safetyEvaluate (s := s) h
  | estop => exact h
  | internalFault => exact sameFault_trip (s := { s with internalActive := true }) hr h
  | homingTimeout => exact sameFault_trip hr h
  | reset =>
    have hrefused := hcall rfl
    rw [safetyResetCall_eq] at hrefused
    cases hreset : safetyReset s with
    | none => simpa [SafetyManager.apply, hreset] using h
    | some s' => simp [hreset] at hrefused
  | grantContact => exact h

/-- **The first fault is retained** by every history that contains no successful reset. -/
theorem sameFault_history {calls : List SafetyCall} (hactive : s.faults.active.code ≠ .none)
    (hcalls : Machine.Along SafetyManager.apply KeepsFault s calls) :
    s.faults.active.SameFault (s.replay calls).faults.active :=
  Machine.run_invariant (I := fun s' => s.faults.active.SameFault s'.faults.active)
    (fun _ _ hs hcall => sameFault_apply hactive hcall hs) (FaultRecord.SameFault.refl _) hcalls

/-- **Consistency of the fault record.**  After every history of calls with any arguments the state
is `IDLE`, `FAULT` or `ESTOP`, a `FAULT` has its reason on record, and an active fault or an open
recovery requirement excludes `IDLE`; until a reset succeeds the active fault keeps its code, time
and source; a refused reset changes nothing, and an accepted one leaves no recovery requirement and
no candidate. -/
theorem fault_record_consistent (now : UInt32) (calls : List SafetyCall) :
    (((safetyInit now).replay calls).state = .idle ∨
      ((safetyInit now).replay calls).state = .fault ∨
      ((safetyInit now).replay calls).state = .estop) ∧
    (((safetyInit now).replay calls).state = .fault →
      ((safetyInit now).replay calls).faults.active.code ≠ .none) ∧
    (((safetyInit now).replay calls).faults.active.code ≠ .none ∨
      ((safetyInit now).replay calls).encoderRecoveryRequired = true ∨
      ((safetyInit now).replay calls).internalActive = true →
      ((safetyInit now).replay calls).state ≠ .idle) ∧
    (((safetyInit now).replay calls).faults.active.code ≠ .none →
      ∀ more, Machine.Along SafetyManager.apply KeepsFault ((safetyInit now).replay calls) more →
        ((safetyInit now).replay calls).faults.active.SameFault
          ((safetyInit now).replay (calls ++ more)).faults.active) ∧
    (∀ s', safetyResetCall ((safetyInit now).replay calls) = (false, s') →
      s' = (safetyInit now).replay calls) ∧
    ∀ s', safetyResetCall ((safetyInit now).replay calls) = (true, s') →
      s'.state = .idle ∧ s'.faults.active = {} ∧ s'.encoderRecoveryRequired = false ∧
        s'.internalActive = false ∧ s'.candidate = false ∧ s'.candidateMs = 0 := by
  have hsound := sound_history now calls
  simp only [SafetyManager.replay_append]
  generalize (safetyInit now).replay calls = s at hsound
  refine ⟨hsound.settled, hsound.reason, ?_, ?_, ?_, ?_⟩
  · rintro (hactive | hrecovery | hinternal)
    · exact hsound.fault hactive
    · exact hsound.recovery hrecovery
    · exact hsound.internal hinternal
  · intro hactive more hmore
    exact sameFault_history hactive hmore
  · intro s' hrefused
    rw [safetyResetCall_eq] at hrefused
    cases hreset : safetyReset s with
    | none =>
      rw [hreset] at hrefused
      exact (congrArg Prod.snd hrefused).symm
    | some s'' => simp [hreset] at hrefused
  · intro s' haccepted
    rw [safetyResetCall_eq] at haccepted
    cases hreset : safetyReset s with
    | none => simp [hreset] at haccepted
    | some s'' =>
      rw [hreset] at haccepted
      obtain ⟨hresettable, rfl⟩ := safetyReset_eq_some.mp hreset
      obtain rfl : s.cleared = s' := congrArg Prod.snd haccepted
      exact ⟨rfl, rfl, hresettable.recovery, hresettable.internal, rfl, rfl⟩

end MotionFirmware
