import MotionFirmware.Rtos.MotorGate

/-!
# The safety latch

A latched `FAULT` or `ESTOP` is left through an accepted `RESET` only, and an `ESTOP` never becomes
a `FAULT`.  Without foreign requests a duty is applied only while Motion's private state is
`MOVING` or `HOMING`; an accepted `RESET` leaves that state in `IDLE`, and only an accepted `MOVE`,
`MOVE_REL` or `HOME` leads back.  So nothing resumes by itself.
-/

namespace MotionFirmware

variable [Rounding] {k : OperationKind} {w w' : World} {a : Action}

/-- The step accepts a `RESET`. -/
abbrev AcceptsReset (a : Action) (w : World) : Prop := Accepts (· == .reset) a w

/-- The step accepts a `MOVE`, `MOVE_REL` or `HOME`. -/
abbrev AcceptsMotion (a : Action) (w : World) : Prop := Accepts CommandType.startsMotion a w

/-! ### The latched state -/

/-- Only a successful reset leaves a latched state. -/
lemma Operation.latched (h : Operation k w w') (hk : k ≠ .reset) (hw : w.safety.state ≠ .idle) :
    w'.safety.state ≠ .idle := by
  cases h with
  | bookkeeping h =>
    obtain ⟨n, hn⟩ := h.safety
    rwa [hn]
  | evaluate => simpa using safetyEvaluate_state_ne_idle hw
  | sync => simpa using hw
  | estop => simp
  | internalFault => simp [safetyInternalFault]
  | reset => exact absurd rfl hk
  | expire => simp [expireHoming, safetyHomingTimeout]
  | _ => exact hw

/-- Apart from a successful reset, every operation keeps an E-stop. -/
lemma Operation.estopped (h : Operation k w w') (hk : k ≠ .reset)
    (hw : w.safety.state = .estop) : w'.safety.state = .estop := by
  have hw' : w.rt.safety.state = .estop := hw
  cases h with
  | bookkeeping h =>
    obtain ⟨n, hn⟩ := h.safety
    rwa [hn]
  | evaluate => simpa using safetyEvaluate_estop hw
  | sync => simpa using hw
  | estop => simp
  | internalFault => simp [safetyInternalFault, trip_state, hw']
  | reset => exact absurd rfl hk
  | expire => simp [expireHoming, safetyHomingTimeout, trip_state, hw']
  | _ => exact hw

/-- A step that does not accept a `RESET` performs no successful reset. -/
lemma operations_of_not_acceptsReset (hreg : w.Regular) (h : ¬ AcceptsReset a w) :
    Operations (fun k _ => k ≠ .reset) w (step a w) :=
  (operations_step hreg a).mono fun k v hk => by
    rintro rfl
    exact h hk.1

/-- **Latch.**  A step that does not accept a `RESET` keeps a latched state latched, and an E-stop
an E-stop. -/
theorem latched_step (hreg : w.Regular) (h : ¬ AcceptsReset a w) :
    (w.safety.state ≠ .idle → (step a w).safety.state ≠ .idle) ∧
      (w.safety.state = .estop → (step a w).safety.state = .estop) := by
  have hops := operations_of_not_acceptsReset hreg h
  exact ⟨hops.invariant fun _ _ _ hk hop => hop.latched hk,
    hops.invariant fun _ _ _ hk hop => hop.estopped hk⟩

/-- An accepted `RESET` is an evaluation followed by a successful reset. -/
lemma step_of_acceptsReset (h : AcceptsReset a w) :
    ∃ s phase, safetyReset (runtimeSafetyEvaluate w).safety = some s ∧
      step a w = (acceptReset (runtimeSafetyEvaluate w) s).goto phase := by
  obtain ⟨command, ⟨r, i, rfl, hphase, happ⟩, htype, hacc⟩ := h
  have htype' : command.type = .reset := by simpa using htype
  have hstep : step (.motion r) w = (runtimeSafetyCommand w command).2.goto
      (.report i (runtimeSafetyCommand w command).1) := by
    change motionStep w r = _
    unfold motionStep taskExecute
    rw [hphase]
    simp [happ]
  have hcommand : runtimeSafetyCommand w command = commandReset w := by
    simp [runtimeSafetyCommand, htype']
  rw [hcommand] at hstep hacc
  unfold commandReset at hstep hacc
  split_ifs at hstep hacc
  dsimp only at hstep hacc
  cases hs : safetyReset (runtimeSafetyEvaluate w).safety with
  | none =>
    rw [hs] at hacc
    exact absurd hacc (by simp)
  | some s =>
    rw [hs] at hstep
    exact ⟨s, _, rfl, hstep⟩

/-- After an accepted `RESET` the safety manager and the controller are in `IDLE`. -/
lemma idle_of_acceptsReset (h : AcceptsReset a w) :
    (step a w).safety.state = .idle ∧ (step a w).motion.data.state = .idle := by
  obtain ⟨s, phase, hs, heq⟩ := step_of_acceptsReset h
  obtain ⟨-, rfl⟩ := safetyReset_eq_some.mp hs
  rw [heq]
  exact ⟨rfl, rfl⟩

/-! ### Who drives the motor -/

/-- A duty is applied only in `MOVING` and `HOMING`. -/
structure World.DutyOwned (w : World) : Prop where
  gate : w.GateSafe
  owned : w.io.motor.output ≠ 0 → w.motion.data.state = .moving ∨ w.motion.data.state = .homing

omit [Rounding] in
/-- In a latched state nothing is applied. -/
lemma World.GateSafe.output_of_latched (hw : w.GateSafe) (h : w.safety.state ≠ .idle) :
    w.io.motor.output = 0 := by
  refine hw.motor.inhibited ?_
  by_contra hopen
  exact h (hw.gate (by simpa using hopen)).idle

/-- **Step lemma.**  Every operation but a foreign request keeps the ownership of the duty. -/
theorem Operation.dutyOwned (h : Operation k w w') (hk : k ≠ .request) (hw : w.DutyOwned) :
    w'.DutyOwned := by
  refine ⟨h.gateSafe hw.gate, fun hout => ?_⟩
  have hown : ∀ v : World, v.io.motor.output = w.io.motor.output ∨ v.io.motor.output = 0 →
      v.motion.data.state = w.motion.data.state → v.io.motor.output ≠ 0 →
      v.motion.data.state = .moving ∨ v.motion.data.state = .homing := by
    intro v hv hstate hne
    rw [hstate]
    exact hw.owned ((hv.resolve_right hne) ▸ hne)
  have hlatched : w'.safety.state ≠ .idle → w'.io.motor.output = 0 :=
    (h.gateSafe hw.gate).output_of_latched
  cases h with
  | bookkeeping h => exact hown _ (Or.inl (by rw [h.motor])) (by rw [h.motion]) hout
  | configure h =>
    obtain ⟨-, pid, -, rfl⟩ := motionInit_some h
    exact absurd rfl hout
  | sample _ dt =>
    rcases motionSample_cases w.toAxis dt with ⟨y, -, -, heq⟩ | ⟨count, -, -, heq⟩
    · rw [heq] at hout
      exact absurd rfl hout
    · rw [heq] at hout ⊢
      exact hw.owned hout
  | request => exact absurd rfl hk
  | publish => exact hw.owned hout
  | evaluate =>
    exact hown _ (by simpa using enforcedMotor_output (applyEvaluation w)) (by simp) hout
  | sync =>
    by_cases hidle : w.safety.state = .idle
    · rw [runtimeSafetySync_of_idle hidle] at hout ⊢
      exact hw.owned hout
    · exact absurd (hlatched (by simpa using hidle)) hout
  | estop => exact absurd (hlatched (by simp)) hout
  | internalFault => exact absurd (hlatched (by simp [safetyInternalFault])) hout
  | refuse => exact hw.owned hout
  | move => exact Or.inl rfl
  | @drive _ dt =>
    rcases motionUpdate_cases w.toAxis dt with ⟨y, -, -, heq⟩ | ⟨-, heq⟩ |
      ⟨out, pid, hmoving, -, heq⟩
    · rw [heq] at hout
      exact absurd rfl hout
    · rw [heq] at hout
      exact absurd rfl hout
    · rw [heq]
      exact Or.inl hmoving
  | seek hhome hsame => exact Or.inr (hsame.state.trans hhome)
  | expire => exact absurd (hlatched (by simp [expireHoming, safetyHomingTimeout])) hout
  | @complete _ _ io _ _ hset =>
    have hmotor : io.motor = motorDisable w.io.motor := by
      have := Peripherals.encoderSetReference_motor w.io.motorDisable 0
      rwa [hset] at this
    exact absurd (congrArg Motor.output hmotor) hout
  | home _ h =>
    obtain ⟨-, -, -, heq⟩ := homingBegin_accepted h
    rw [heq] at hout
    exact absurd rfl hout
  | countAbort => exact hw.owned hout
  | _ => exact absurd rfl hout

/-- The action is not a foreign duty request. -/
def Action.own : Action → Bool
  | .request _ => false
  | _ => true

/-- Without foreign requests the ownership of the duty survives every step. -/
lemma dutyOwned_step (hreg : w.Regular) (ha : a.own = true) (hw : w.DutyOwned) :
    (step a w).DutyOwned := by
  refine (operations_step hreg a).invariant (fun k v v' hk hop => hop.dutyOwned ?_) hw
  rintro rfl
  obtain ⟨duty, rfl⟩ := hk
  simp [Action.own] at ha

/-- In every world that the tasks alone reach, a duty is applied only in `MOVING` and `HOMING`. -/
theorem dutyOwned_runtime (env : Environment) {as : List Action}
    (hown : ∀ a ∈ as, a.own = true) : (runtime env as).DutyOwned := by
  have hinit : (runtimeInit env).DutyOwned := ⟨gateSafe_runtimeInit env, fun h => absurd rfl h⟩
  exact runtime_invariant_along hinit (fun a v hreg ha hv => dutyOwned_step hreg ha hv)
    (Machine.along_of_forall_mem hown)

/-! ### No automatic resume -/

/-- The controller neither drives nor seeks. -/
def World.Resting (w : World) : Prop :=
  w.motion.data.state ≠ .moving ∧ w.motion.data.state ≠ .homing

/-- Only an accepted motion makes the controller drive or seek. -/
lemma Operation.resting (h : Operation k w w') (hk : (∀ now, k ≠ .home now) ∧ k ≠ .move)
    (hs : w.safety.Settled) (hw : w.Resting) : w'.Resting := by
  unfold World.Resting
  rcases h.state hs with h | ⟨⟨now, hhome⟩, -⟩ | ⟨hmove, -⟩ | h | h | h | h
  · rw [h]
    exact hw
  · exact absurd hhome (hk.1 now)
  · exact absurd hmove hk.2
  all_goals rw [h]; exact ⟨nofun, nofun⟩

/-- A step that does not accept a motion leaves a resting controller resting. -/
lemma resting_step (hreg : w.Regular) (h : ¬ AcceptsMotion a w) (hw : w.Resting) :
    (step a w).Resting := by
  have hops : Operations (fun k _ => (∀ now, k ≠ .home now) ∧ k ≠ .move) w (step a w) := by
    refine (operations_step hreg a).mono fun k v hk => ⟨?_, ?_⟩
    · rintro now rfl
      obtain ⟨⟨command, hexec, htype, hacc⟩, -⟩ := hk
      exact h ⟨command, hexec, by simp_all [CommandType.startsMotion], hacc⟩
    · rintro rfl
      obtain ⟨command, hexec, htype, hacc⟩ := hk
      refine h ⟨command, hexec, ?_, hacc⟩
      have htypes : command.type = .moveAbs ∨ command.type = .moveRel := by simpa using htype
      rcases htypes with h | h <;>
        simp [CommandType.startsMotion, h]
  have hboth : (step a w).Resting ∧ (step a w).safety.Settled :=
    hops.invariant (I := fun v => v.Resting ∧ v.safety.Settled)
      (fun k v v' hk hop hv => ⟨hop.resting hk hv.2 hv.1, hop.settled hv.2⟩) ⟨hw, hreg.settled⟩
  exact hboth.1

/-- In a run without an accepted `RESET` a latched state stays latched. -/
lemma latched_run {as : List Action} (hreg : w.Regular)
    (h : Machine.Along step (fun a v => ¬ AcceptsReset a v) w as)
    (hw : w.safety.state ≠ .idle) : (Machine.run step w as).safety.state ≠ .idle := by
  have hstep : ∀ a v, v.Regular ∧ v.safety.state ≠ .idle → ¬ AcceptsReset a v →
      (step a v).Regular ∧ (step a v).safety.state ≠ .idle :=
    fun a v hv hnot => ⟨hv.1.step a, (latched_step hv.1 hnot).1 hv.2⟩
  exact (Machine.run_invariant hstep ⟨hreg, hw⟩ h).2

/-- In a run without an accepted motion a resting controller keeps resting. -/
lemma resting_run {as : List Action} (hreg : w.Regular)
    (h : Machine.Along step (fun a v => ¬ AcceptsMotion a v) w as) (hw : w.Resting) :
    (Machine.run step w as).Resting := by
  have hstep : ∀ a v, v.Regular ∧ v.Resting → ¬ AcceptsMotion a v →
      (step a v).Regular ∧ (step a v).Resting :=
    fun a v hv hnot => ⟨hv.1.step a, resting_step hv.1 hnot hv.2⟩
  exact (Machine.run_invariant hstep ⟨hreg, hw⟩ h).2

lemma runtime_append (env : Environment) (as bs : List Action) :
    runtime env (as ++ bs) = Machine.run step (runtime env as) bs :=
  Machine.run_append

/-- A duty after a latch needs an accepted `RESET` and, after it, an accepted motion. -/
theorem no_automatic_resume (env : Environment) (as bs : List Action)
    (hown : ∀ a ∈ as ++ bs, a.own = true) (hlatched : (runtime env as).safety.state ≠ .idle)
    (hout : (runtime env (as ++ bs)).io.motor.output ≠ 0) :
    ∃ cs r ds m es, bs = cs ++ r :: (ds ++ m :: es) ∧
      AcceptsReset r (runtime env (as ++ cs)) ∧
      AcceptsMotion m (runtime env (as ++ cs ++ r :: ds)) := by
  have hduty := dutyOwned_runtime env hown
  rcases Machine.along_not_or_exists_split step AcceptsReset (runtime env as) bs with hnone |
    ⟨cs, r, rest, rfl, hreset⟩
  · have hstill := latched_run (regular_runtime env as) hnone hlatched
    rw [← runtime_append] at hstill
    exact absurd (hduty.gate.output_of_latched hstill) hout
  · rw [← runtime_append] at hreset
    rcases Machine.along_not_or_exists_split step AcceptsMotion
        (step r (runtime env (as ++ cs))) rest with hnone | ⟨ds, m, es, rfl, hmotion⟩
    · have hidle := (idle_of_acceptsReset hreset).2
      have hrest := resting_run ((regular_runtime env (as ++ cs)).step r) hnone
        ⟨by rw [hidle]; exact nofun, by rw [hidle]; exact nofun⟩
      have hfinal : runtime env (as ++ (cs ++ r :: rest)) =
          Machine.run step (step r (runtime env (as ++ cs))) rest := by
        rw [← List.append_assoc, runtime_append env (as ++ cs), Machine.run_cons]
      rw [← hfinal] at hrest
      rcases hduty.owned hout with h | h
      · exact absurd h hrest.1
      · exact absurd h hrest.2
    · refine ⟨cs, r, ds, m, es, rfl, hreset, ?_⟩
      rw [runtime_append env (as ++ cs), Machine.run_cons]
      exact hmotion

/-- **Safety latch and no automatic resume.**  A latched state is left through an accepted `RESET`
only and an E-stop never becomes a fault; and when the tasks alone request duties, a duty after a
latch needs an accepted `RESET` followed by an accepted motion. -/
theorem safety_latch (env : Environment) (as : List Action) :
    (∀ a, (runtime env as).safety.state = .fault ∨ (runtime env as).safety.state = .estop →
      ¬ AcceptsReset a (runtime env as) →
      (step a (runtime env as)).safety.state = .fault ∨
        (step a (runtime env as)).safety.state = .estop) ∧
    (∀ a, (runtime env as).safety.state = .estop →
      (step a (runtime env as)).safety.state ≠ .fault) ∧
    (∀ bs, (∀ a ∈ as ++ bs, a.own = true) → (runtime env as).safety.state ≠ .idle →
      (runtime env (as ++ bs)).io.motor.output ≠ 0 →
      ∃ cs r ds m es, bs = cs ++ r :: (ds ++ m :: es) ∧
        AcceptsReset r (runtime env (as ++ cs)) ∧
        AcceptsMotion m (runtime env (as ++ cs ++ r :: ds))) := by
  have hreg := regular_runtime env as
  refine ⟨fun a hlatched hnot => ?_, fun a hestop => ?_, no_automatic_resume env as⟩
  · have hne : (runtime env as).safety.state ≠ .idle := by
      rcases hlatched with h | h <;> rw [h] <;> exact nofun
    exact (hreg.step a).settled.resolve_left ((latched_step hreg hnot).1 hne)
  · by_cases hreset : AcceptsReset a (runtime env as)
    · rw [(idle_of_acceptsReset hreset).1]
      exact nofun
    · rw [(latched_step hreg hreset).2 hestop]
      exact nofun

end MotionFirmware
