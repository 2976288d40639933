import MotionFirmware.Rtos.MotorGate
import MotionFirmware.Rtos.Reference

/-!
# Refused motions

A `MOVE`, `MOVE_REL`, `SPEED` or `HOME` that is not accepted leaves the controller and the duties of
the motor alone.  Most refusals come before anything is written.  A departure that the controller
refuses has still been shown to the safety manager, and that evaluation may latch a fault or close
the gate; if it does neither, the directional guard that it renews meets no negative duty, because
the switch was active in the last sample already.
-/

namespace MotionFirmware

variable {k : OperationKind} {w w' : World} {a : Action}

/-- The allowance lives in `IDLE`, and the last sample showed the switch active. -/
structure World.ContactSampled (w : World) : Prop where
  idle : w.safety.homeContact = true → w.safety.state = .idle
  sampled : w.safety.homeContact = true → w.safety.inputs.negativeLimit = true

/-- The controller and the duties of the motor are the same. -/
structure World.SameDrive (w w' : World) : Prop where
  motion : w'.motion = w.motion
  requested : w'.io.motor.requested = w.io.motor.requested
  output : w'.io.motor.output = w.io.motor.output

lemma World.SameDrive.refl (w : World) : w.SameDrive w := ⟨rfl, rfl, rfl⟩

/-- A world with the same allowance, state and sample. -/
lemma World.ContactSampled.congr (hw : w.ContactSampled)
    (hcontact : w'.safety.homeContact = w.safety.homeContact)
    (hstate : w'.safety.state = w.safety.state) (hinputs : w'.safety.inputs = w.safety.inputs) :
    w'.ContactSampled := by
  refine ⟨fun h => ?_, fun h => ?_⟩
  · rw [hstate]
    exact hw.idle (hcontact ▸ h)
  · rw [hinputs]
    exact hw.sampled (hcontact ▸ h)

/-- Without an allowance there is nothing to show. -/
lemma contactSampled_of_not (h : w.safety.homeContact = false) : w.ContactSampled :=
  ⟨fun hc => absurd hc (by simp [h]), fun hc => absurd hc (by simp [h])⟩

variable [Rounding]

/-- An evaluation keeps the allowance only if it samples the switch active. -/
lemma contactSampled_evaluate (hidle : w.safety.homeContact = true → w.safety.state = .idle) :
    (runtimeSafetyEvaluate w).ContactSampled := by
  have hsafety := runtimeSafetyEvaluate_safety w
  have hkept : (safetyEvaluate w.safety (evaluation w)).homeContact = true →
      (safetyEvaluate w.safety (evaluation w)).state = .idle ∧ w.safety.homeContact = true ∧
        (evaluation w).inputs.negativeLimit = true :=
    fun h => safetyEvaluate_homeContact hidle h
  refine ⟨fun h => ?_, fun h => ?_⟩
  · simp only [World.safety, hsafety] at h ⊢
    exact (hkept h).1
  · simp only [World.safety, hsafety] at h ⊢
    rw [safetyEvaluate_inputs]
    exact (hkept h).2.2

/-- **Step lemma.**  Apart from a completed `HOME`, every operation keeps the relation between the
allowance and the last sample. -/
theorem Operation.contactSampled (h : Operation k w w') (hk : k ≠ .complete)
    (hw : w.ContactSampled) : w'.ContactSampled := by
  cases h with
  | bookkeeping h =>
    obtain ⟨n, hn⟩ := h.safety
    exact hw.congr (by rw [hn]) (by rw [hn]) (by rw [hn])
  | evaluate => exact contactSampled_evaluate hw.idle
  | sync => exact hw.congr (by simp) (by simp) (by simp)
  | estop => exact contactSampled_of_not (by simp [raiseEstop, safetyEstop])
  | internalFault => exact contactSampled_of_not (by simp [raiseInternal, safetyInternalFault])
  | reset h =>
    -- a reset is accepted only after a sample with the switch released
    obtain ⟨hs, rfl⟩ := safetyReset_eq_some.mp h
    have hreleased : w.safety.homeContact = false := by
      by_contra hcontact
      have hactive := hw.sampled (by simpa using hcontact)
      exact absurd hactive (by simp [hs.negative])
    exact contactSampled_of_not hreleased
  | expire =>
    exact contactSampled_of_not (by simp [expireHoming, raiseTimeout, safetyHomingTimeout])
  | complete => exact absurd rfl hk
  | _ => exact hw.congr rfl rfl rfl

/-- Every step keeps the relation: a completed `HOME` is followed by an evaluation of its own. -/
lemma contactSampled_step (hreg : w.Regular) (hw : w.ContactSampled) :
    (step a w).ContactSampled := by
  by_cases hcomplete : CompletesHome a w
  · obtain ⟨io, -, heq⟩ := step_of_completesHome hcomplete
    have hidle : (afterHazardRead w).safety.state = .idle := hcomplete.2.2.2.2.1
    have hevaluated : (runtimeSafetyEvaluate
        (completeHoming (afterHazardRead w) w.task.nowMs io)).ContactSampled :=
      contactSampled_evaluate fun _ => hidle
    rw [heq]
    exact hevaluated.congr rfl rfl rfl
  · refine (operations_step hreg a).invariant (fun k v v' hk hop hv => ?_) hw
    refine hop.contactSampled ?_ hv
    rintro rfl
    exact hcomplete hk

/-- In every reachable world the allowance stands on the last sample. -/
lemma contactSampled_runtime (env : Environment) (as : List Action) :
    (runtime env as).ContactSampled := by
  have hstep : ∀ a v, v.Regular ∧ v.ContactSampled →
      (step a v).Regular ∧ (step a v).ContactSampled :=
    fun a v hv => ⟨hv.1.step a, contactSampled_step hv.1 hv.2⟩
  exact (Machine.run_invariant_of_forall hstep
    ⟨regular_runtimeInit env, contactSampled_of_not rfl⟩).2

omit [Rounding] in
/-- An enforcement that leaves the gate where it is, and whose directional guard meets no negative
duty, keeps the duties. -/
lemma enforcedMotor_duties (hgate : w.io.motor.inhibited = true → w.io.motor.output = 0)
    (hclosed : w.io.motor.inhibited = false → w.isUnsafe = false)
    (hguard : w.io.motor.inhibited = false → w.safety.homeContact = true →
      ¬ w.io.motor.output < 0) :
    (enforcedMotor w).requested = w.io.motor.requested ∧
      (enforcedMotor w).output = w.io.motor.output := by
  have hrequested : (enforcedMotor w).requested = w.io.motor.requested := by
    unfold enforcedMotor
    dsimp only
    split_ifs <;> rfl
  refine ⟨hrequested, ?_⟩
  cases hinhibited : w.io.motor.inhibited with
  | true =>
    -- a closed gate applies zero, and every enforcement keeps a zero
    rcases enforcedMotor_output w with h | h
    · exact h
    · rw [h, hgate hinhibited]
  | false =>
    have hopen := hclosed hinhibited
    unfold enforcedMotor motorSafetyBlockNegative
    dsimp only
    rw [hopen, hinhibited, if_neg (by simp)]
    dsimp only
    split_ifs with hblock
    · simp only [Bool.and_eq_true, decide_eq_true_eq] at hblock
      exact absurd hblock.2 (hguard hinhibited hblock.1.1)
    · rfl

/-- A re-evaluation that keeps the state in `IDLE` and does not close the gate changes neither the
controller nor the duties, if the departure allowance holds. -/
lemma sameDrive_reevaluate (hsafe : w.GateSafe) (hsampled : w.ContactSampled)
    (hcontact : w.safety.homeContact = true) (hidle : (reevaluate w).safety.state = .idle)
    (hopen : w.io.motor.inhibited = false → (reevaluate w).io.motor.inhibited = false) :
    w.SameDrive (reevaluate w) := by
  have hkept : (runtimeSafetyEvaluate w.publish).safety.state = .idle := by
    simpa [reevaluate] using hidle
  have hmotor : (reevaluate w).io.motor = enforcedMotor (applyEvaluation w.publish) := by
    rw [reevaluate, runtimeSafetySync_of_idle hkept]
    exact runtimeSafetyEvaluate_motor _
  have hnonneg : w.io.motor.inhibited = false → ¬ w.io.motor.output < 0 := by
    intro hgate hneg
    have hblocked := ((hsafe.gate hgate).negative (hsampled.sampled hcontact)).2
    have hzero := hsafe.motor.blocked hblocked
    obtain ⟨q, hq, -⟩ := hsafe.motor.finite
    rw [hq] at hneg hzero
    rw [FloatValue.finite_lt_zero] at hneg
    rw [FloatValue.zero_le_finite] at hzero
    exact absurd hneg (not_lt.mpr hzero)
  obtain ⟨hrequested, houtput⟩ := enforcedMotor_duties (w := applyEvaluation w.publish)
    hsafe.motor.inhibited (fun h => by simpa [hmotor] using hopen h) fun h _ => hnonneg h
  refine ⟨reevaluate_motion hidle, ?_, ?_⟩
  · rw [hmotor]
    exact hrequested
  · rw [hmotor]
    exact houtput

omit [Rounding] in
/-- `MOVE`, `MOVE_REL`, `SPEED` and `HOME`: the commands that demand a motion. -/
def CommandType.demandsMotion (t : CommandType) : Bool :=
  t == .moveAbs || t == .moveRel || t == .setSpeed || t == .home

/-- A command that the controller refuses leaves the axis alone. -/
lemma motionCommand_refused {x : Axis} {command : MotionCommand}
    (h : (motionCommand x command).1 ≠ .accepted) : (motionCommand x command).2 = x := by
  rcases motionCommand_cases x command with hrefused | ⟨-, hstop⟩ | ⟨-, -, -, -, hmove⟩
  · exact hrefused.2
  · exact absurd (by rw [hstop]) h
  · exact absurd (by rw [hmove]) h

/-- A `HOME` that `homing_begin` refuses is published and nothing else. -/
lemma commandHome_refused (h : (commandHome w).1 ≠ .accepted) :
    w.SameDrive (commandHome w).2 := by
  have hbegin : (homingBegin w.afterTime.toAxis w.io.platformTimeMs).1 ≠ .accepted := h
  have hsame : (homingBegin w.afterTime.toAxis w.io.platformTimeMs).2 = w.afterTime.toAxis := by
    unfold homingBegin at hbegin ⊢
    split_ifs at hbegin ⊢ with hinput hstate
    · rfl
    · rfl
    · exact absurd rfl hbegin
  have hafter : (commandHome w).2 = w.afterTime.publish := by
    unfold commandHome
    dsimp only
    rw [if_neg hbegin, hsame]
  rw [hafter]
  exact ⟨rfl, rfl, rfl⟩

/-- A refused motion changes nothing, or it is a refused departure, and the world is the one that
its re-evaluation leaves. -/
lemma runtimeSafetyCommand_refused {command : MotionCommand}
    (htype : command.type.demandsMotion = true)
    (hrefused : (runtimeSafetyCommand w command).1 ≠ .accepted) :
    w.SameDrive (runtimeSafetyCommand w command).2 ∨
      (w.safety.homeContact = true ∧ (runtimeSafetyCommand w command).2 = reevaluate w) := by
  have hne : command.type ≠ .estop ∧ command.type ≠ .reset ∧ command.type ≠ .stop := by
    refine ⟨?_, ?_, ?_⟩ <;> rintro h <;> simp [h, CommandType.demandsMotion] at htype
  obtain ⟨hestop, hreset, hstop⟩ := hne
  unfold runtimeSafetyCommand at hrefused ⊢
  rw [if_neg hestop, if_neg hreset, if_neg fun h => hstop h.2.2] at hrefused ⊢
  split_ifs at hrefused ⊢ with hclosed hhome hhoming hdepart
  · exact Or.inl (.refl w)
  · exact Or.inl (commandHome_refused hrefused)
  · exact Or.inl (.refl w)
  · unfold commandDepart at hrefused ⊢
    split_ifs at hrefused ⊢ with htarget
    · exact Or.inl (.refl w)
    · refine Or.inr ⟨hdepart.1, ?_⟩
      dsimp only
      rw [motionCommand_refused hrefused]
  · dsimp only
    rw [motionCommand_refused hrefused]
    exact Or.inl (.refl w)

/-- **A refused motion is a no-op.**  In every reachable world a `MOVE`, `MOVE_REL`, `SPEED` or
`HOME` that is not accepted leaves the controller and the duties of the motor as they were, or the
re-evaluation inside the call has latched a new fault or E-stop or closed the gate. -/
theorem refused_motion_unchanged (env : Environment) (as : List Action) (command : MotionCommand)
    (htype : command.type.demandsMotion = true)
    (hrefused : (runtimeSafetyCommand (runtime env as) command).1 ≠ .accepted) :
    (runtime env as).SameDrive (runtimeSafetyCommand (runtime env as) command).2 ∨
      ((runtimeSafetyCommand (runtime env as) command).2 = reevaluate (runtime env as) ∧
        ((runtime env as).safety.state = .idle ∧
            ((reevaluate (runtime env as)).safety.state = .fault ∨
              (reevaluate (runtime env as)).safety.state = .estop) ∨
          (runtime env as).io.motor.inhibited = false ∧
            (reevaluate (runtime env as)).io.motor.inhibited = true)) := by
  have hsafe := gateSafe_runtime env as
  have hsampled := contactSampled_runtime env as
  have hreg := regular_runtime env as
  set w := runtime env as
  rcases runtimeSafetyCommand_refused htype hrefused with hsame | ⟨hcontact, hafter⟩
  · exact Or.inl hsame
  by_cases hidle : (reevaluate w).safety.state = .idle
  · by_cases hopen : w.io.motor.inhibited = false → (reevaluate w).io.motor.inhibited = false
    · left
      rw [hafter]
      exact sameDrive_reevaluate hsafe hsampled hcontact hidle hopen
    · push Not at hopen
      exact Or.inr ⟨hafter, Or.inr ⟨hopen.1, by simpa using hopen.2⟩⟩
  · have hsettled : (reevaluate w).safety.Settled := by
      have := hreg.settled.safetyEvaluate (c := evaluation w.publish)
      simpa [reevaluate, SafetyManager.Settled] using this
    have hlatched := hsettled.resolve_left hidle
    exact Or.inr ⟨hafter, Or.inl ⟨hsampled.idle hcontact, hlatched⟩⟩

omit [Rounding] in
/-- A `MOVE` beyond the travel from standstill. -/
theorem refused_motion_unchanged_range :
    let w := runtime32 standstill startUp
    let r := @runtimeSafetyCommand Binary32.rounding w ⟨.moveAbs, 6000⟩
    w.SameDrive r.2 ∨
      (r.2 = @reevaluate Binary32.rounding w ∧
        (w.safety.state = .idle ∧
            ((@reevaluate Binary32.rounding w).safety.state = .fault ∨
              (@reevaluate Binary32.rounding w).safety.state = .estop) ∨
          w.io.motor.inhibited = false ∧
            (@reevaluate Binary32.rounding w).io.motor.inhibited = true)) :=
  @refused_motion_unchanged Binary32.rounding standstill startUp ⟨.moveAbs, 6000⟩ rfl
    (by decide +kernel)

end MotionFirmware
