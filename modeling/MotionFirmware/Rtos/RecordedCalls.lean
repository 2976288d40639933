import MotionFirmware.Rtos.Regular

/-!
# The recorded calls determine the safety manager

Every operation makes at most one call of the safety manager, and records it.  Hence the manager of
a reachable world is the one that its recorded history produces, up to the fields that the runtime
itself keeps in it, and what holds after every history holds in every reachable world.
-/

namespace MotionFirmware

variable [Rounding] {k : OperationKind} {w w' : World} {a : Action}

/-- The calls that an operation may record. -/
def OperationKind.records : OperationKind → SafetyCall → Bool
  | .evaluate, .evaluate _ _ => true
  | .estop, .estop _ => true
  | .internalFault, .internalFault _ => true
  | .refuse, .reset => true
  | .reset, .reset => true
  | .expire, .homingTimeout _ => true
  | .complete, .grantContact => true
  | _, _ => false

omit [Rounding] in
/-- The enforcement does not touch the core of the manager. -/
lemma core_runtimeSafetyEnforce (w : World) :
    (runtimeSafetyEnforce w).rt.safety.core = w.rt.safety.core := by
  rw [runtimeSafetyEnforce_safety]
  rfl

omit [Rounding] in
/-- Adopting a latch does not touch the core of the manager. -/
lemma core_runtimeSafetySync (w : World) :
    (runtimeSafetySync w).rt.safety.core = w.rt.safety.core := by
  rw [runtimeSafetySync_safety]
  rfl

/-- An evaluation in this world is recorded with what it has read, and with its true time. -/
def SafetyCall.MadeIn (w : World) : SafetyCall → Prop
  | .evaluate c time => c = MotionFirmware.evaluation w ∧ time = w.io.trueTime
  | _ => True

/-- **One call at a time.**  An operation leaves the record and the core of the manager alone, or
makes one call and records it; the departure allowance is granted in `IDLE` only. -/
lemma Operation.call (h : Operation k w w') :
    (w'.calls = w.calls ∧ w'.safety.core = w.safety.core) ∨
    ∃ call, w'.calls = w.calls ++ [call] ∧
      w'.safety.core = (SafetyManager.apply call w.safety).core ∧ k.records call = true ∧
      GrantedInIdle call w.safety ∧ call.MadeIn w := by
  cases h with
  | bookkeeping h =>
    obtain ⟨n, hn⟩ := h.safety
    exact Or.inl ⟨h.calls, by rw [hn]; rfl⟩
  | evaluate =>
    refine Or.inr ⟨.evaluate (evaluation w) w.io.trueTime, by simp, ?_, rfl, (fun h => by cases h),
      rfl, rfl⟩
    exact core_runtimeSafetyEnforce (applyEvaluation w)
  | sync => exact Or.inl ⟨by simp, core_runtimeSafetySync w⟩
  | estop =>
    exact Or.inr ⟨.estop w.io.platformTimeMs, by simp [raiseEstop],
      core_runtimeSafetyEnforce _, rfl, (fun h => by cases h), trivial⟩
  | internalFault _ now =>
    exact Or.inr ⟨.internalFault now, by simp [raiseInternal], core_runtimeSafetyEnforce _, rfl,
      (fun h => by cases h), trivial⟩
  | refuse h =>
    refine Or.inr ⟨.reset, rfl, ?_, rfl, (fun h => by cases h), trivial⟩
    simp [SafetyManager.apply, show safetyReset w.rt.safety = none from h]
  | reset h =>
    refine Or.inr ⟨.reset, rfl, ?_, rfl, (fun h => by cases h), trivial⟩
    simp [SafetyManager.apply, show safetyReset w.rt.safety = some _ from h, acceptReset,
      World.callSafety]
  | @expire _ now =>
    refine Or.inr ⟨.homingTimeout now, by simp [expireHoming, raiseTimeout], ?_, rfl,
      (fun h => by cases h),
      trivial⟩
    exact (core_runtimeSafetySync _).trans (core_runtimeSafetyEnforce _)
  | complete hidle => exact Or.inr ⟨.grantContact, rfl, rfl, rfl, fun _ => hidle, trivial⟩
  | _ => exact Or.inl ⟨rfl, rfl⟩

/-- The core of the manager is the one that the recorded calls produce from the start-up time. -/
structure World.Recorded (start : UInt32) (w : World) : Prop where
  core : w.safety.core = (safetyInit start).replay w.calls
  granted : Machine.Along SafetyManager.apply GrantedInIdle (safetyInit start) w.calls

/-- **Step lemma.**  Every operation keeps the record faithful. -/
theorem Operation.recorded {start : UInt32} (h : Operation k w w') (hw : w.Recorded start) :
    w'.Recorded start := by
  rcases h.call with ⟨hcalls, hcore⟩ | ⟨call, hcalls, hcore, -, hgrant, -⟩
  · exact ⟨by rw [hcore, hcalls, hw.core], by rw [hcalls]; exact hw.granted⟩
  · refine ⟨?_, ?_⟩
    · rw [hcore, hcalls, core_apply, hw.core]
      simp
    · rw [hcalls]
      refine Machine.along_append.mpr ⟨hw.granted, fun hcall => ?_, trivial⟩
      have hstate : ((safetyInit start).replay w.calls).state = w.safety.state := by
        rw [← hw.core]
        rfl
      exact hstate.trans (hgrant hcall)

/-- The true time of the call of `safety_init`, read by the clock. -/
def Environment.start (env : Environment) : UInt32 := WrappingClock.reading (env.clock 0)

/-- The record of every reachable world is faithful. -/
theorem recorded_runtime (env : Environment) (as : List Action) :
    (runtime env as).Recorded env.start :=
  runtime_invariant env as ⟨rfl, trivial⟩ fun _ _ _ h hv => h.recorded hv

/-- The manager of every reachable world is consistent. -/
theorem consistent_runtime (env : Environment) (as : List Action) :
    (runtime env as).safety.Consistent := by
  have hrec := recorded_runtime env as
  have hcons : ((safetyInit env.start).replay (runtime env as).calls).Consistent :=
    Machine.run_invariant (fun _ _ hv hg => hv.apply hg) (consistent_safetyInit _) hrec.granted
  rw [← hrec.core] at hcons
  exact ⟨hcons.settled, hcons.latched, hcons.contact⟩

/-- **Rule for the recorded calls.**  What holds of every call that is made in a reachable world
holds of every recorded call. -/
theorem forall_calls_runtime {env : Environment} {P : SafetyCall → Prop}
    (hP : ∀ (v : World) call, v.io.env = env → call.MadeIn v → P call) (as : List Action) :
    ∀ call ∈ (runtime env as).calls, P call := by
  have hinit : (runtimeInit env).io.env = env ∧ ∀ call ∈ (runtimeInit env).calls, P call :=
    ⟨rfl, by simp [runtimeInit]⟩
  refine (runtime_invariant (I := fun v => v.io.env = env ∧ ∀ call ∈ v.calls, P call) env as hinit
    fun _ v _ h hv => ⟨h.elapses.env.trans hv.1, ?_⟩).2
  rcases h.call with ⟨hcalls, -⟩ | ⟨call, hcalls, -, -, -, hmade⟩
  · rw [hcalls]
    exact hv.2
  · intro call' hmem
    rw [hcalls] at hmem
    rcases List.mem_append.mp hmem with hold | hlast
    · exact hv.2 call' hold
    · obtain rfl := List.mem_singleton.mp hlast
      exact hP v _ hv.1 hmade

/-! ### Which step made a call -/

/-- A step extends the record by calls that it may make. -/
lemma calls_step (hreg : w.Regular) (a : Action) :
    ∃ new, (step a w).calls = w.calls ++ new ∧
      ∀ call ∈ new, ∃ k v, Performs a w k v ∧ k.records call = true := by
  refine (operations_step hreg a).invariant
    (I := fun v => ∃ new, v.calls = w.calls ++ new ∧
      ∀ call ∈ new, ∃ k v, Performs a w k v ∧ k.records call = true) ?_ ⟨[], by simp, by simp⟩
  rintro k v v' hk hop ⟨new, hnew, hall⟩
  rcases hop.call with ⟨hcalls, -⟩ | ⟨call, hcalls, -, hrec, -⟩
  · exact ⟨new, hcalls.trans hnew, hall⟩
  · refine ⟨new ++ [call], by rw [hcalls, hnew, List.append_assoc], fun call' hmem => ?_⟩
    rcases List.mem_append.mp hmem with hold | hlast
    · exact hall call' hold
    · obtain rfl := List.mem_singleton.mp hlast
      exact ⟨k, v, hk, hrec⟩

/-- **Origin of a call.**  Every recorded call was made by a step that may make it. -/
theorem exists_step_of_call {env : Environment} {as : List Action} {before after : List SafetyCall}
    {call : SafetyCall} (heq : (runtime env as).calls = before ++ call :: after) :
    ∃ bs a cs, as = bs ++ a :: cs ∧ (runtime env bs).calls <+: before ∧
      before ++ [call] <+: (runtime env (bs ++ [a])).calls ∧
      ∃ k v, Performs a (runtime env bs) k v ∧ k.records call = true := by
  have hlog : ∀ a v, v.Regular → v.calls <+: (step a v).calls := fun a v hv =>
    let ⟨new, hnew, _⟩ := calls_step hv a
    ⟨new, hnew.symm⟩
  obtain ⟨bs, a, cs, rfl, hpre, hpost⟩ := Machine.exists_step_of_log World.calls
    (fun a v hv => World.Regular.step hv a) hlog (regular_runtimeInit env) heq
    (by simp [runtimeInit])
  refine ⟨bs, a, cs, rfl, hpre, ?_, ?_⟩
  · simpa [runtime] using hpost
  · obtain ⟨new, hnew, hall⟩ := calls_step (regular_runtime env bs) a
    have hsplit : before ++ [call] <+: (runtime env bs).calls ++ new := hnew ▸ hpost
    obtain ⟨old, rfl⟩ := hpre
    have hmem : old ++ [call] <+: new := by
      rw [runtime, List.append_assoc] at hsplit
      exact (List.prefix_append_right_inj _).mp hsplit
    exact hall call (hmem.subset (by simp))

end MotionFirmware
