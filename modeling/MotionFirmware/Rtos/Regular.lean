import MotionFirmware.Rtos.Operations

/-!
# Regular worlds and the invariant rule

In a regular world a controller in `HOMING` runs an attempt and the safety manager is in `IDLE`,
`FAULT` or `ESTOP`.  Every operation keeps this, so every reachable world is regular and every step
of the runtime decomposes into operations; `runtime_invariant` is the induction that all later
invariants use.
-/

namespace MotionFirmware

variable [Rounding] {k : OperationKind} {w w' : World}

/-- The operation leaves the controller alone. -/
def OperationKind.passive : OperationKind → Bool
  | .bookkeeping | .disable | .request | .publish | .evaluate | .estop | .internalFault | .refuse
  | .countAbort => true
  | _ => false

lemma Operation.motion_eq (h : Operation k w w') (hk : k.passive = true) :
    w'.motion = w.motion := by
  cases h with
  | bookkeeping h => exact h.motion
  | disable => rfl
  | request => rfl
  | publish => rfl
  | evaluate => simp
  | estop => simp
  | internalFault => simp
  | refuse => rfl
  | countAbort => rfl
  | _ => simp [OperationKind.passive] at hk

/-- Every operation keeps the safety manager settled. -/
lemma Operation.settled (h : Operation k w w') (hw : w.safety.Settled) : w'.safety.Settled := by
  cases h with
  | bookkeeping h =>
    obtain ⟨n, hn⟩ := h.safety
    rw [hn]
    exact hw
  | evaluate =>
    have := hw.safetyEvaluate (c := evaluation w)
    simpa [SafetyManager.Settled] using this
  | sync => simpa [SafetyManager.Settled] using hw
  | estop => exact Or.inr (Or.inr (raiseEstop_state w))
  | internalFault _ now =>
    have hsettled : (safetyInternalFault w.safety now).Settled := settled_trip
    simpa [SafetyManager.Settled] using hsettled
  | reset h =>
    obtain ⟨-, rfl⟩ := safetyReset_eq_some.mp h
    exact Or.inl rfl
  | @expire _ now =>
    have hsettled : (safetyHomingTimeout w.rt.safety now).Settled := settled_trip
    simpa [expireHoming, SafetyManager.Settled] using hsettled
  | _ => exact hw

omit [Rounding] in
/-- A failing operation does not lead into `HOMING`, and keeps the homing record. -/
lemma fail_regular {x y : Axis} (hframe : x.Frame y)
    (hstate : y.motion.data.state = x.motion.data.state)
    (hx : x.motion.data.state = .homing → x.motion.data.homing.result ≠ .timeout ∧
      x.motion.data.homing.result ≠ .complete)
    (hhome : (fail y).motion.data.state = .homing) :
    (fail y).motion.data.homing.result ≠ .timeout ∧
      (fail y).motion.data.homing.result ≠ .complete := by
  rw [fail_state] at hhome
  split_ifs at hhome
  rw [hframe.fail.homing]
  exact hx (hstate ▸ hhome)

omit [Rounding] in
/-- Closing the record of an attempt with an outcome of a latch keeps it open for no completion. -/
lemma abort_regular {h : HomingSnapshot} {r : HomingResult} (hr : r ≠ .timeout ∧ r ≠ .complete)
    (hh : h.result ≠ .timeout ∧ h.result ≠ .complete) :
    (h.abort r).result ≠ .timeout ∧ (h.abort r).result ≠ .complete := by
  unfold HomingSnapshot.abort
  split_ifs
  · exact hr
  · exact hh

/-- Every operation keeps a world regular. -/
theorem Operation.regular (h : Operation k w w') (hw : w.Regular) : w'.Regular := by
  refine ⟨fun hhome => ?_, h.settled hw.settled⟩
  cases hk : k.passive with
  | true =>
    rw [h.motion_eq hk] at hhome ⊢
    exact hw.homing hhome
  | false =>
    have hsettled := h.settled hw.settled
    cases h with
    | configure h =>
      obtain ⟨-, pid, -, rfl⟩ := motionInit_some h
      simp at hhome
    | sample _ dt =>
      rcases motionSample_cases w.toAxis dt with ⟨y, hframe, hstate, heq⟩ | ⟨count, -, -, heq⟩
      · rw [heq] at hhome ⊢
        exact fail_regular hframe hstate hw.homing hhome
      · rw [heq] at hhome ⊢
        exact hw.homing hhome
    | sync => exact hw.runtimeSafetySync.homing hhome
    | reset h => simp [acceptReset, MotionController.adopt] at hhome
    | stopHoming => simp [commandStopHoming] at hhome
    | home hidle h =>
      obtain ⟨-, -, -, heq⟩ := homingBegin_accepted h
      simp [heq]
    | halt _ hne =>
      rw [halt_state] at hhome
      split_ifs at hhome
      exact absurd hhome hne
    | move => simp [MotionController.start] at hhome
    | @drive _ dt hne =>
      rcases motionUpdate_cases w.toAxis dt with ⟨y, hframe, hstate, heq⟩ | ⟨-, heq⟩ |
        ⟨out, pid, hmoving, -, heq⟩
      · rw [heq] at hhome ⊢
        exact fail_regular hframe hstate hw.homing hhome
      · rw [heq] at hhome
        rcases updated_state w.motion with h | ⟨-, h⟩
        · exact absurd (h ▸ hhome) hne
        · simp [motionRest, h] at hhome
      · rw [heq] at hhome
        simp [MotionController.withOutput, hmoving] at hhome
    | seek hhome' hsame =>
      rw [hsame.result]
      exact hw.homing hhome'
    | @expire _ now =>
      have hlatched : (raiseTimeout (w.onAxis fun x =>
          homingAbort { x with motion := x.motion.withElapsed now } .timeout) now).safety.state ≠
            .idle := by
        simp [safetyHomingTimeout]
      rw [expireHoming, runtimeSafetySync_state hlatched] at hhome
      simp only [expireHoming, SafetyManager.Settled, World.safety, runtimeSafetySync_safety]
        at hsettled
      exact absurd hhome (SafetyManager.Settled.ne_homing hsettled)
    | complete => simp [completeHoming, grantContact, MotionController.reference] at hhome
    | abort => exact abort_regular (by decide) (hw.homing hhome)
    | _ => simp [OperationKind.passive] at hk

/-- **Transitions of the controller.**  An operation keeps the controller's state, starts a seek or
a motion, or leads to `IDLE`, `STOPPING` or a latched state. -/
theorem Operation.state (h : Operation k w w') (hs : w.safety.Settled) :
    w'.motion.data.state = w.motion.data.state ∨
    ((∃ now, k = .home now) ∧ w'.motion.data.state = .homing) ∨
    (k = .move ∧ w'.motion.data.state = .moving) ∨
    w'.motion.data.state = .idle ∨ w'.motion.data.state = .stopping ∨
      w'.motion.data.state = .fault ∨ w'.motion.data.state = .estop := by
  have hfail : ∀ y : Axis, y.motion.data.state = w.motion.data.state →
      (fail y).motion.data.state = w.motion.data.state ∨ (fail y).motion.data.state = .idle := by
    intro y hy
    rw [fail_state, hy]
    split_ifs
    · exact Or.inr rfl
    · exact Or.inl rfl
  have hsync : ∀ v : World, v.safety.Settled → (runtimeSafetySync v).motion = v.motion ∨
      (runtimeSafetySync v).motion.data.state = .fault ∨
      (runtimeSafetySync v).motion.data.state = .estop := by
    intro v hv
    rcases hv with hidle | hstate
    · exact Or.inl (by rw [runtimeSafetySync_of_idle hidle])
    · refine Or.inr ?_
      have hne : v.safety.state ≠ .idle := by rcases hstate with h | h <;> rw [h] <;> exact nofun
      rwa [runtimeSafetySync_state hne]
  cases hp : k.passive with
  | true => exact Or.inl (by rw [h.motion_eq hp])
  | false =>
    cases h with
    | configure h =>
      obtain ⟨-, pid, -, rfl⟩ := motionInit_some h
      simp
    | sample _ dt =>
      rcases motionSample_cases w.toAxis dt with ⟨y, -, hstate, heq⟩ | ⟨count, -, -, heq⟩
      · rw [heq]
        rcases hfail y hstate with h | h <;> simp [h]
      · rw [heq]
        exact Or.inl rfl
    | sync => rcases hsync w hs with h | h | h <;> simp [h]
    | reset => simp [acceptReset, MotionController.adopt]
    | stopHoming => simp [commandStopHoming]
    | home hidle h =>
      obtain ⟨-, -, -, heq⟩ := homingBegin_accepted h
      simp [heq]
    | halt =>
      have := halt_state w.motion
      split_ifs at this <;> simp [this]
    | move => simp [MotionController.start]
    | @drive _ dt =>
      rcases motionUpdate_cases w.toAxis dt with ⟨y, -, hstate, heq⟩ | ⟨-, heq⟩ |
        ⟨out, pid, hmoving, -, heq⟩
      · rw [heq]
        rcases hfail y hstate with h | h <;> simp [h]
      · rw [heq]
        rcases updated_state w.motion with h | ⟨-, h⟩ <;> simp [motionRest, h]
      · rw [heq]
        rcases updated_state w.motion with h | ⟨-, h⟩
        · simp [MotionController.withOutput, h]
        · simp [h] at hmoving
    | seek _ hsame => exact Or.inl hsame.state
    | @expire _ now hhome =>
      have hlatched : (safetyHomingTimeout w.rt.safety now).Settled := settled_trip
      rcases hsync (raiseTimeout (w.onAxis fun x =>
          homingAbort { x with motion := x.motion.withElapsed now } .timeout) now)
        (by simpa [SafetyManager.Settled] using hlatched) with h | h | h
      · refine Or.inl ?_
        rw [expireHoming, h, raiseTimeout_motion]
        rfl
      · simp [expireHoming, h]
      · simp [expireHoming, h]
    | complete => simp [completeHoming, grantContact, MotionController.reference]
    | abort => exact Or.inl rfl
    | _ => simp [OperationKind.passive] at hp

omit [Rounding] in
/-- The runtime starts in a regular world. -/
lemma regular_runtimeInit (env : Environment) : (runtimeInit env).Regular :=
  ⟨fun h => by simp [runtimeInit] at h, Or.inl rfl⟩

/-- Every step keeps a world regular. -/
theorem World.Regular.step (hw : w.Regular) (a : Action) : (step a w).Regular :=
  (operations_step hw a).invariant (fun _ _ _ _ hop hv => hop.regular hv) hw

/-- Every reachable world is regular. -/
theorem regular_runtime (env : Environment) (as : List Action) : (runtime env as).Regular :=
  Machine.run_invariant_of_forall (fun a _ hv => hv.step a) (regular_runtimeInit env)

/-- **Invariant rule of the runtime.**  What holds at the start and is kept by every operation holds
in every reachable world. -/
theorem runtime_invariant {I : World → Prop} (env : Environment) (as : List Action)
    (hinit : I (runtimeInit env)) (hop : ∀ k v v', Operation k v v' → I v → I v') :
    I (runtime env as) := by
  have hstep : ∀ a v, v.Regular ∧ I v → (step a v).Regular ∧ I (step a v) := by
    intro a v hv
    exact ⟨hv.1.step a, (operations_step hv.1 a).invariant (fun _ _ _ _ h => hop _ _ _ h) hv.2⟩
  exact (Machine.run_invariant_of_forall hstep ⟨regular_runtimeInit env, hinit⟩).2

/-- **Invariant rule of the runtime, along a condition.**  What holds at the start and is kept by
every step that meets the condition holds at the end of every run that meets it. -/
theorem runtime_invariant_along {I : World → Prop} {P : Action → World → Prop} {env : Environment}
    {as : List Action} (hinit : I (runtimeInit env))
    (hstep : ∀ a v, v.Regular → P a v → I v → I (step a v))
    (hP : Machine.Along step P (runtimeInit env) as) : I (runtime env as) := by
  have hstep' : ∀ a v, v.Regular ∧ I v → P a v → (step a v).Regular ∧ I (step a v) :=
    fun a v hv hPv => ⟨hv.1.step a, hstep a v hv.1 hPv hv.2⟩
  exact (Machine.run_invariant hstep' ⟨regular_runtimeInit env, hinit⟩ hP).2

/-! ### Readings of the clock -/

/-- Between the two worlds the clock has been read any number of times. -/
structure World.Elapses (w w' : World) : Prop where
  env : w'.io.env = w.io.env
  clockReads : w.io.clockReads ≤ w'.io.clockReads

omit [Rounding] in
lemma World.Elapses.refl (w : World) : w.Elapses w := ⟨rfl, le_rfl⟩

omit [Rounding] in
lemma World.Elapses.trans {w'' : World} (h : w.Elapses w') (h' : w'.Elapses w'') : w.Elapses w'' :=
  ⟨h'.env.trans h.env, h.clockReads.trans h'.clockReads⟩

omit [Rounding] in
/-- True time does not run backwards. -/
lemma World.Elapses.trueTime_le (h : w.Elapses w') (hclock : Monotone w.io.env.clock) :
    w.io.trueTime ≤ w'.io.trueTime := by
  unfold Peripherals.trueTime
  rw [h.env]
  exact hclock h.clockReads

omit [Rounding] in
/-- What keeps the axis up to the motor only keeps the clock. -/
lemma Axis.Frame.elapses {x : Axis} (h : w.toAxis.Frame x) : w.Elapses { w with toAxis := x } :=
  ⟨h.env, h.clockReads.ge⟩

omit [Rounding] in
lemma World.Elapses.enforce (h : w.Elapses w') : w.Elapses (runtimeSafetyEnforce w') :=
  h.trans ⟨runtimeSafetyEnforce_env w', le_runtimeSafetyEnforce_clockReads w'⟩

omit [Rounding] in
lemma elapses_runtimeSafetySync (w : World) : w.Elapses (runtimeSafetySync w) :=
  ⟨runtimeSafetySync_env w, le_runtimeSafetySync_clockReads w⟩

/-- Every operation keeps the environment, and only reads the clock. -/
lemma Operation.elapses (h : Operation k w w') : w.Elapses w' := by
  cases h with
  | bookkeeping h => exact ⟨h.env, h.clockReads⟩
  | configure h =>
    obtain ⟨-, pid, -, rfl⟩ := motionInit_some h
    exact ⟨rfl, le_rfl⟩
  | sample _ dt =>
    rcases motionSample_cases w.toAxis dt with ⟨y, hframe, -, heq⟩ | ⟨count, -, -, heq⟩
    · rw [heq]
      exact hframe.fail.elapses
    · rw [heq]
      exact ⟨rfl, le_rfl⟩
  | evaluate =>
    have happlied : w.Elapses (applyEvaluation w) := ⟨rfl, Nat.le_succ _⟩
    exact happlied.enforce
  | sync => exact elapses_runtimeSafetySync w
  | estop =>
    refine World.Elapses.enforce ?_
    exact ⟨rfl, Nat.le_succ _⟩
  | internalFault =>
    refine World.Elapses.enforce ?_
    exact ⟨rfl, le_rfl⟩
  | stopHoming => exact ⟨rfl, Nat.le_succ _⟩
  | home hidle h =>
    obtain ⟨-, -, -, heq⟩ := homingBegin_accepted h
    rw [heq]
    exact ⟨rfl, le_rfl⟩
  | @drive _ dt =>
    rcases motionUpdate_cases w.toAxis dt with ⟨y, hframe, -, heq⟩ | ⟨-, heq⟩ |
      ⟨out, pid, -, -, heq⟩
    · rw [heq]
      exact hframe.fail.elapses
    · rw [heq]
      exact ⟨rfl, le_rfl⟩
    · rw [heq]
      exact ⟨rfl, le_rfl⟩
  | seek _ hsame => exact ⟨hsame.env, hsame.clockReads.ge⟩
  | @expire _ now =>
    have hraised : w.Elapses (raiseTimeout (w.onAxis fun x =>
        homingAbort { x with motion := x.motion.withElapsed now } .timeout) now) := by
      refine World.Elapses.enforce ?_
      exact ⟨rfl, le_rfl⟩
    exact hraised.trans (elapses_runtimeSafetySync _)
  | @complete _ _ io _ _ hset =>
    have henv := Peripherals.encoderSetReference_env w.io.motorDisable 0
    have hreads := Peripherals.encoderSetReference_clockReads w.io.motorDisable 0
    rw [hset] at henv hreads
    exact ⟨henv, hreads.ge⟩
  | _ => exact ⟨rfl, le_rfl⟩

/-- A step only reads the clock. -/
lemma elapses_step (hreg : w.Regular) (a : Action) : w.Elapses (step a w) :=
  (operations_step hreg a).invariant (fun _ _ _ _ hop hv => hv.trans hop.elapses) (.refl w)

end MotionFirmware
