import Mathlib.Logic.Relation
import MotionFirmware.Rtos.SafetyRuntimeFrames
import MotionFirmware.Safety.SafetyChecks

/-!
# The operations that a critical section is made of

Every action of the runtime is a sequence of operations of the drivers, of the controller and of
the safety manager.  `Operation k w w'` lists them with the guards under which the source reaches
them, and `operations_step` decomposes each action.  An invariant is proved once for each
operation; `Operations.invariant` and `runtime_invariant` are the resulting rules.

The kinds of operations that a statement singles out (an accepted `RESET`, an accepted motion, the
completion and the deadline of a `HOME`) are performed by one step only under the conditions that
the predicates on steps in this file name.
-/

namespace MotionFirmware

/-- The kinds of operations. -/
inductive OperationKind where
  /-- Readings, and the fields of `runtime_data` that nothing under study reads. -/
  | bookkeeping
  /-- `motor_disable`. -/
  | disable
  /-- `motion_init`. -/
  | configure
  /-- `motion_sample`. -/
  | sample
  /-- A duty request from outside. -/
  | request
  /-- `runtime_data.motion = m->data`. -/
  | publish
  /-- `runtime_safety_evaluate`. -/
  | evaluate
  /-- `runtime_safety_sync`. -/
  | sync
  /-- `safety_estop` and `runtime_safety_enforce`. -/
  | estop
  /-- `safety_internal_fault` and `runtime_safety_enforce`. -/
  | internalFault
  /-- A `safety_reset` that is refused. -/
  | refuse
  /-- A `safety_reset` that succeeds. -/
  | reset
  /-- The `STOP` of a running `HOME`. -/
  | stopHoming
  /-- An accepted `homing_begin`, with its time. -/
  | home (now : UInt32)
  /-- An accepted `STOP` of `motion_command`. -/
  | halt
  /-- An accepted `MOVE` or `MOVE_REL`. -/
  | move
  /-- `motion_update`, with its result. -/
  | drive (ok : Bool)
  /-- A `homing_update` that goes on or fails, with its result. -/
  | seek (ok : Bool)
  /-- A `homing_update` that meets its deadline. -/
  | expire
  /-- A `homing_update` that completes. -/
  | complete
  /-- `++aborted_moves` outside `runtime_safety_sync`. -/
  | countAbort
  /-- `homing_abort` after a failed sample. -/
  | abort
  deriving DecidableEq, Repr

/-- Two worlds agree in everything that the operations under study read or write. -/
structure SameAxis (w w' : World) : Prop where
  motion : w'.motion = w.motion
  motor : w'.io.motor = w.io.motor
  referenceOffset : w'.io.referenceOffset = w.io.referenceOffset
  env : w'.io.env = w.io.env
  published : w'.rt.motion = w.rt.motion
  calls : w'.calls = w.calls
  safety : ∃ n, w'.safety = { w.safety with watchdogRefreshes := n }
  clockReads : w.io.clockReads ≤ w'.io.clockReads

lemma SameAxis.refl (w : World) : SameAxis w w :=
  ⟨rfl, rfl, rfl, rfl, rfl, rfl, ⟨w.safety.watchdogRefreshes, rfl⟩, le_rfl⟩

/-- A reading of the clock touches nothing else. -/
lemma SameAxis.afterTime (w : World) : SameAxis w w.afterTime :=
  { SameAxis.refl w with clockReads := Nat.le_succ _ }

/-- The world after the deadline of a `HOME`: the record is closed, the fault is raised and its
state is adopted. -/
def expireHoming (w : World) (now : UInt32) : World :=
  runtimeSafetySync (raiseTimeout (w.onAxis fun x =>
    homingAbort { x with motion := x.motion.withElapsed now } .timeout) now)

/-- The world after a completed `HOME`, before the evaluation that follows it. -/
def completeHoming (w : World) (now : UInt32) (io : Peripherals) : World :=
  grantContact { w with
    io := io
    motion := (clearControl { w.toAxis with motion := w.motion.withElapsed now }).motion.reference }

variable [Rounding]

/-- One operation, with the guards under which the source performs it. -/
inductive Operation : OperationKind → World → World → Prop
  | bookkeeping {w w' : World} (h : SameAxis w w') : Operation .bookkeeping w w'
  | disable (w : World) : Operation .disable w w.disable
  | configure {w : World} {x : Axis} (h : motionInit w.toAxis motionDefaultConfig = some x) :
      Operation .configure w { w with toAxis := x }
  | sample (w : World) (dt : FloatValue) :
      Operation .sample w { w with toAxis := (motionSample w.toAxis dt).2 }
  | request (w : World) (duty : FloatValue) : Operation .request w (foreignRequest w duty)
  | publish (w : World) : Operation .publish w w.publish
  | evaluate (w : World) : Operation .evaluate w (runtimeSafetyEvaluate w)
  | sync (w : World) : Operation .sync w (runtimeSafetySync w)
  | estop (w : World) : Operation .estop w (raiseEstop w)
  | internalFault (w : World) (now : UInt32) : Operation .internalFault w (raiseInternal w now)
  | refuse {w : World} (h : safetyReset w.safety = none) :
      Operation .refuse w (w.callSafety .reset w.safety)
  | reset {w : World} {s : SafetyManager} (h : safetyReset w.safety = some s) :
      Operation .reset w (acceptReset w s)
  | stopHoming {w : World} (hidle : w.safety.state = .idle)
      (hhome : w.motion.data.state = .homing) :
      Operation .stopHoming w (commandStopHoming w)
  | home {w : World} {now : UInt32} (hidle : w.safety.state = .idle)
      (h : (homingBegin w.toAxis now).1 = .accepted) :
      Operation (.home now) w { w with toAxis := (homingBegin w.toAxis now).2 }.publish
  | halt {w : World} (hidle : w.safety.state = .idle) (hhome : w.motion.data.state ≠ .homing) :
      Operation .halt w { w with io := w.io.motorDisable, motion := w.motion.halt }
  | move {w : World} {target : ℤ} (hidle : w.safety.state = .idle)
      (hstate : w.motion.data.state = .idle) (hvalid : w.motion.data.feedbackValid = true)
      (hrange : w.motion.outOfRange target = false)
      (hdepart : w.safety.homeContact = true → w.motion.data.position.toInt < target) :
      Operation .move w { w with motion := w.motion.start target }
  | drive {w : World} {dt : FloatValue} (hhome : w.motion.data.state ≠ .homing) :
      Operation (.drive (motionUpdate w.toAxis dt).1) w
        { w with toAxis := (motionUpdate w.toAxis dt).2 }
  | seek {w : World} {inputs : GpioInputs} {now : UInt32} (hhome : w.motion.data.state = .homing)
      (hsame : w.toAxis.Continues (homingUpdate w.toAxis inputs now).2) :
      Operation (.seek (homingUpdate w.toAxis inputs now).1) w
        { w with toAxis := (homingUpdate w.toAxis inputs now).2 }
  | expire {w : World} {now : UInt32} (hhome : w.motion.data.state = .homing)
      (hrun : w.motion.data.homing.result = .running)
      (hlate : homingTimeoutMs ≤ now - w.motion.data.homing.startedMs) :
      Operation .expire w (expireHoming w now)
  | complete {w : World} {now : UInt32} {io : Peripherals} (hidle : w.safety.state = .idle)
      (hhome : w.motion.data.state = .homing)
      (hset : w.io.motorDisable.encoderSetReference 0 = (true, io))
      (htime : now - w.motion.data.homing.startedMs < homingTimeoutMs) :
      Operation .complete w (completeHoming w now io)
  | countAbort (w : World) : Operation .countAbort w w.countAbort
  | abort (w : World) : Operation .abort w (w.onAxis fun x => homingAbort x .faulted)

/-- A sequence of operations, each of a kind that `K` admits in the world it starts from. -/
def Operations (K : OperationKind → World → Prop) : World → World → Prop :=
  Relation.ReflTransGen fun w w' => ∃ k, K k w ∧ Operation k w w'

namespace Operations

variable {K K' : OperationKind → World → Prop} {k : OperationKind} {w w' w'' : World}

lemma refl (w : World) : Operations K w w := Relation.ReflTransGen.refl

lemma trans (h : Operations K w w') (h' : Operations K w' w'') : Operations K w w'' :=
  Relation.ReflTransGen.trans h h'

lemma single (hk : K k w) (h : Operation k w w') : Operations K w w' :=
  Relation.ReflTransGen.single ⟨k, hk, h⟩

lemma mono (h : Operations K w w') (hK : ∀ k v, K k v → K' k v) : Operations K' w w' :=
  Relation.ReflTransGen.mono (p := fun v v' => ∃ k, K' k v ∧ Operation k v v')
    (fun _ _ ⟨k, hk, hop⟩ => ⟨k, hK _ _ hk, hop⟩) _ _ h

/-- **Invariant rule.**  What every admitted operation keeps, a sequence of them keeps. -/
theorem invariant {I : World → Prop} (h : Operations K w w')
    (hop : ∀ k v v', K k v → Operation k v v' → I v → I v') (hw : I w) : I w' := by
  induction h with
  | refl => exact hw
  | tail _ hstep ih =>
    obtain ⟨k, hk, hop'⟩ := hstep
    exact hop _ _ _ hk hop' ih

end Operations

/-- The kinds of operations that any step may perform. -/
structure Common (K : OperationKind → World → Prop) : Prop where
  bookkeeping : ∀ v, K .bookkeeping v
  publish : ∀ v, K .publish v
  evaluate : ∀ v, K .evaluate v
  sync : ∀ v, K .sync v
  estop : ∀ v, K .estop v
  refuse : ∀ v, K .refuse v
  stopHoming : ∀ v, K .stopHoming v
  halt : ∀ v, K .halt v
  drive : ∀ v, K (.drive true) v
  seek : ∀ v, K (.seek true) v

/-- The attempt of a controller in `HOMING` has not succeeded or timed out yet, and the safety
manager is settled. -/
structure World.Regular (w : World) : Prop where
  homing : w.motion.data.state = .homing →
    w.motion.data.homing.result ≠ .timeout ∧ w.motion.data.homing.result ≠ .complete
  settled : w.safety.Settled

variable {K : OperationKind → World → Prop} {w : World}

lemma operations_reevaluate (hK : Common K) (w : World) : Operations K w (reevaluate w) :=
  (Operations.single (hK.publish _) (.publish w)).trans
    ((Operations.single (hK.evaluate _) (.evaluate _)).trans
      (Operations.single (hK.sync _) (.sync _)))

/-- A command that `runtime_safety_command` passes on to `motion_command`. -/
lemma operations_motionCommand (hK : Common K) {command : MotionCommand}
    (hidle : w.safety.state = .idle) (hhome : w.motion.data.state ≠ .homing)
    (hdepart : command.type = .moveAbs ∨ command.type = .moveRel → w.safety.homeContact = true →
      w.motion.data.position.toInt < motionTarget w.motion command)
    (hmove : (motionCommand w.toAxis command).1 = .accepted →
      command.type = .moveAbs ∨ command.type = .moveRel → ∀ v, K .move v) :
    Operations K w { w with toAxis := (motionCommand w.toAxis command).2 } := by
  rcases motionCommand_cases w.toAxis command with ⟨-, hsame⟩ | ⟨-, hstop⟩ |
    ⟨htype, hstate, hvalid, hrange, heq⟩
  · rw [hsame]
    exact Operations.refl w
  · rw [hstop]
    exact Operations.single (hK.halt _) (.halt hidle hhome)
  · have hkind := hmove (by rw [heq]) htype
    rw [heq]
    exact Operations.single (hkind _) (.move hidle hstate hvalid hrange (hdepart htype))

/-- The operations of a `RESET`. -/
lemma operations_commandReset (hK : Common K)
    (hreset : (commandReset w).1 = .accepted → ∀ v, v.motion = w.motion → K .reset v) :
    Operations K w (commandReset w).2 := by
  unfold commandReset at hreset ⊢
  split_ifs at hreset ⊢ with hbusy
  · exact Operations.refl w
  · have heval := Operations.single (hK.evaluate w) (.evaluate w)
    dsimp only at hreset ⊢
    cases h : safetyReset (runtimeSafetyEvaluate w).safety with
    | none => exact heval.trans (Operations.single (hK.refuse _) (.refuse h))
    | some s =>
      rw [h] at hreset
      exact heval.trans
        (Operations.single (hreset rfl _ (runtimeSafetyEvaluate_motion w)) (.reset h))

/-- The operations of a `HOME`. -/
lemma operations_commandHome (hK : Common K) (hidle : w.safety.state = .idle)
    (hhome : (commandHome w).1 = .accepted → ∀ v, K (.home w.io.platformTimeMs) v) :
    Operations K w (commandHome w).2 := by
  have htime : Operations K w w.afterTime :=
    Operations.single (hK.bookkeeping w) (.bookkeeping (.afterTime w))
  by_cases h : (homingBegin w.afterTime.toAxis w.io.platformTimeMs).1 = .accepted
  · have hbegin := Operations.single (hhome h w.afterTime) (.home hidle h)
    have heval := (Operations.single (hK.evaluate _) (.evaluate _)).trans
      (Operations.single (hK.sync _) (.sync (runtimeSafetyEvaluate
        { w.afterTime with
          toAxis := (homingBegin w.afterTime.toAxis w.io.platformTimeMs).2 }.publish)))
    have heq : (commandHome w).2 = runtimeSafetySync (runtimeSafetyEvaluate
        { w.afterTime with
          toAxis := (homingBegin w.afterTime.toAxis w.io.platformTimeMs).2 }.publish) :=
      if_pos h
    rw [heq]
    exact htime.trans (hbegin.trans heval)
  · have heq : (commandHome w).2 = w.afterTime.publish := by
      have hsame : (homingBegin w.afterTime.toAxis w.io.platformTimeMs).2 =
          w.afterTime.toAxis := by
        unfold homingBegin at h ⊢
        split_ifs at h ⊢ <;> first | rfl | exact absurd rfl h
      simp only [commandHome, if_neg h, hsame]
    rw [heq]
    exact htime.trans (Operations.single (hK.publish _) (.publish _))

/-- The operations of a command. -/
theorem operations_command (hK : Common K) (w : World) (command : MotionCommand)
    (hreset : (runtimeSafetyCommand w command).1 = .accepted → command.type = .reset →
      ∀ v, v.motion = w.motion → K .reset v)
    (hhome : (runtimeSafetyCommand w command).1 = .accepted → command.type = .home →
      ∀ v, K (.home w.io.platformTimeMs) v)
    (hmove : (runtimeSafetyCommand w command).1 = .accepted →
      command.type = .moveAbs ∨ command.type = .moveRel → ∀ v, K .move v) :
    Operations K w (runtimeSafetyCommand w command).2 := by
  generalize hr : runtimeSafetyCommand w command = r at hreset hhome hmove ⊢
  unfold runtimeSafetyCommand at hr
  split_ifs at hr with htype htype' hstop hclosed _ htype'' hbusy hcontact
  all_goals subst hr
  · exact (Operations.single (hK.estop w) (.estop w)).trans
      (Operations.single (hK.sync _) (.sync _))
  · exact operations_commandReset hK fun h => hreset h htype'
  · exact Operations.single (hK.stopHoming w) (.stopHoming hstop.1 hstop.2.1)
  · exact Operations.refl w
  · exact Operations.refl w
  all_goals
    have hidle : w.safety.state = .idle := by
      by_contra hne
      simp_all [World.parkedHome]
  · exact operations_commandHome hK hidle fun h => hhome h htype''
  · exact Operations.refl w
  · unfold commandDepart at hmove ⊢
    split_ifs at hmove ⊢ with htarget
    · exact Operations.refl w
    · exact (operations_motionCommand hK hidle hbusy (fun _ _ => not_le.mp htarget) hmove).trans
        (operations_reevaluate hK _)
  · exact operations_motionCommand hK hidle hbusy
      (fun hm hc => absurd ⟨hc, hm⟩ hcontact) hmove

/-- An update in `HOMING` completes the attempt: the inputs that Motion has read show the contact
and no hazard, the deadline has not passed, the feedback is valid and the reference can be set. -/
structure Completes (w : World) (inputs : GpioInputs) (now : UInt32) : Prop where
  negative : inputs.negativeLimit = true
  estop : inputs.estop = false
  positive : inputs.positiveLimit = false
  time : now - w.motion.data.homing.startedMs < homingTimeoutMs
  initialized : w.motion.initialized = true
  feedback : w.motion.data.feedbackValid = true
  reference : (w.io.motorDisable.encoderSetReference 0).1 = true

/-- The update of a running `HOME` fails when `homing_update` does. -/
lemma seekUpdate_result (w : World) (inputs : GpioInputs) (now : UInt32) :
    (seekUpdate w inputs now).1 = (homingUpdate w.toAxis inputs now).1 := by
  unfold seekUpdate
  dsimp only
  split_ifs with h
  · rw [Bool.not_eq_true'] at h
    exact h.symm
  · rw [Bool.not_eq_true', Bool.not_eq_false] at h
    exact h.symm

/-- An attempt that has neither timed out nor completed goes on. -/
lemma finishHoming_of_ne {now : UInt32}
    (hrun : w.motion.data.homing.result ≠ .timeout ∧ w.motion.data.homing.result ≠ .complete) :
    finishHoming w now = w := by
  unfold finishHoming
  rw [if_neg hrun.1, if_neg hrun.2]

/-- The update in `HOMING` is `homing_update` as long as the attempt continues. -/
lemma seekUpdate_of_continues {inputs : GpioInputs} {now : UInt32}
    (hrun : w.motion.data.homing.result ≠ .timeout ∧ w.motion.data.homing.result ≠ .complete)
    (hsame : w.toAxis.Continues (homingUpdate w.toAxis inputs now).2) :
    (seekUpdate w inputs now).2 = { w with toAxis := (homingUpdate w.toAxis inputs now).2 } := by
  unfold seekUpdate
  dsimp only
  split_ifs
  · rfl
  · refine finishHoming_of_ne ?_
    rw [← hsame.result] at hrun
    exact hrun

/-- A `homing_update` that continues the attempt. -/
lemma operations_seek (hK : Common K) {inputs : GpioInputs} {now : UInt32}
    (hhome : w.motion.data.state = .homing)
    (hfail : (seekUpdate w inputs now).1 = false → K (.seek false) w)
    (hrun : w.motion.data.homing.result ≠ .timeout ∧ w.motion.data.homing.result ≠ .complete)
    (hsame : w.toAxis.Continues (homingUpdate w.toAxis inputs now).2) :
    Operations K w (seekUpdate w inputs now).2 := by
  have hkind : K (.seek (homingUpdate w.toAxis inputs now).1) w := by
    rw [seekUpdate_result] at hfail
    cases hok : (homingUpdate w.toAxis inputs now).1 with
    | true => exact hK.seek w
    | false => exact hfail hok
  rw [seekUpdate_of_continues hrun hsame]
  exact Operations.single hkind (.seek hhome hsame)

/-- The operations of the last part of the update in `HOMING`. -/
lemma operations_seekUpdate (hK : Common K) {inputs : GpioInputs} {now : UInt32}
    (hidle : w.safety.state = .idle) (hhome : w.motion.data.state = .homing)
    (hrun : w.motion.data.homing.result ≠ .timeout ∧ w.motion.data.homing.result ≠ .complete)
    (hexpire : homingTimeoutMs ≤ now - w.motion.data.homing.startedMs → K .expire w)
    (hcomplete : Completes w inputs now → K .complete w)
    (hfail : (seekUpdate w inputs now).1 = false → K (.seek false) w) :
    Operations K w (seekUpdate w inputs now).2 := by
  rcases homingUpdate_cases w.toAxis inputs now with ⟨heq, hlate⟩ |
    ⟨io, hset, heq, hneg, hestop, hpos, htime, hinit, hvalid⟩ | hsame
  · by_cases hrunning : w.motion.data.homing.result = .running
    · have hresult : (homingAbort { w.toAxis with motion := w.motion.withElapsed now }
          .timeout).motion.data.homing.result = .timeout := by
        simp [homingAbort, HomingSnapshot.abort, clearControl, MotionController.withElapsed,
          hrunning]
      have hfinish : (seekUpdate w inputs now).2 = expireHoming w now := by
        simp only [seekUpdate, heq, finishHoming, hresult]
        rfl
      rw [hfinish]
      exact Operations.single (hexpire hlate) (.expire hhome hrunning hlate)
    · refine operations_seek hK hhome hfail hrun ?_
      rw [heq]
      exact continues_homingAbort hrunning
  · have hfinish : (seekUpdate w inputs now).2 =
        runtimeSafetyEvaluate (completeHoming w now io) := by
      simp only [seekUpdate, heq, finishHoming]
      rfl
    rw [hfinish]
    exact (Operations.single (hcomplete ⟨hneg, hestop, hpos, htime, hinit, hvalid, by rw [hset]⟩)
      (.complete hidle hhome hset htime)).trans (Operations.single (hK.evaluate _) (.evaluate _))
  · exact operations_seek hK hhome hfail hrun hsame

/-- While the state stays `IDLE`, showing it to the safety manager leaves the controller alone. -/
lemma reevaluate_motion (h : (reevaluate w).safety.state = .idle) :
    (reevaluate w).motion = w.motion := by
  have hidle : (runtimeSafetyEvaluate w.publish).safety.state = .idle := by
    simpa [reevaluate] using h
  rw [reevaluate, runtimeSafetySync_of_idle hidle, runtimeSafetyEvaluate_motion]
  rfl

/-- The world in which `homing_update` runs, after Motion's own reading of the inputs. -/
def afterHazardRead (w : World) : World :=
  let v := { w with io := w.io.afterGpio }
  if hazardRead w.io.gpioReadInputs then reevaluate v else v

/-- The `HOMING` branch of `runtime_control_update` stops at a latch or updates the attempt. -/
lemma homingControl_eq (w : World) (now : UInt32) :
    homingControl w now =
      if hazardRead w.io.gpioReadInputs ∧ (afterHazardRead w).safety.state ≠ .idle then
        (true, afterHazardRead w)
      else seekUpdate (afterHazardRead w) (w.io.gpioReadInputs.getD {}) now := by
  unfold homingControl afterHazardRead
  dsimp only
  split_ifs <;> simp_all

lemma operations_afterHazardRead (hK : Common K) (w : World) :
    Operations K w (afterHazardRead w) := by
  have hread : Operations K w { w with io := w.io.afterGpio } :=
    Operations.single (hK.bookkeeping w) (.bookkeeping { SameAxis.refl w with })
  unfold afterHazardRead
  dsimp only
  split_ifs
  · exact hread.trans (operations_reevaluate hK _)
  · exact hread

/-- Without a hazard the reading leaves the safety manager alone. -/
lemma afterHazardRead_idle (hidle : w.safety.state = .idle)
    (h : ¬ (hazardRead w.io.gpioReadInputs ∧ (afterHazardRead w).safety.state ≠ .idle)) :
    (afterHazardRead w).safety.state = .idle := by
  by_contra hne
  refine h ⟨?_, hne⟩
  by_contra hread
  simp only [afterHazardRead, if_neg hread] at hne
  exact hne hidle

/-- The reading leaves the controller alone unless it leads to a latch. -/
lemma afterHazardRead_motion (h : (afterHazardRead w).safety.state = .idle) :
    (afterHazardRead w).motion = w.motion := by
  unfold afterHazardRead at h ⊢
  dsimp only at h ⊢
  split_ifs at h ⊢
  · exact reevaluate_motion h
  · rfl

/-- A latch that an evaluation leads to ends a seek. -/
lemma reevaluate_latched (hs : w.safety.Settled) (h : (reevaluate w).safety.state ≠ .idle) :
    (reevaluate w).motion.data.state ≠ .homing := by
  have hsettled : (runtimeSafetyEvaluate w.publish).safety.Settled := by
    have := hs.safetyEvaluate (c := evaluation w.publish)
    simpa [SafetyManager.Settled] using this
  have hne : (runtimeSafetyEvaluate w.publish).safety.state ≠ .idle := by
    simpa [reevaluate] using h
  rw [reevaluate, runtimeSafetySync_state hne]
  exact hsettled.ne_homing

/-- Showing the state to the safety manager does not lead into `HOMING`. -/
lemma reevaluate_state_ne_homing (hs : w.safety.Settled) (h : w.motion.data.state ≠ .homing) :
    (reevaluate w).motion.data.state ≠ .homing := by
  by_cases hidle : (reevaluate w).safety.state = .idle
  · rwa [reevaluate_motion hidle]
  · exact reevaluate_latched hs hidle

/-- The operations of the control update. -/
theorem operations_controlUpdate (hK : Common K) {dt : FloatValue} {now : UInt32}
    (hidle : w.motion.data.state = .homing → w.safety.state = .idle) (hreg : w.Regular)
    (hexpire : w.motion.data.state = .homing →
      homingTimeoutMs ≤ now - w.motion.data.homing.startedMs →
      ∀ v, v.motion = w.motion → K .expire v)
    (hcomplete : w.motion.data.state = .homing → ∀ inputs, w.io.gpioReadInputs = some inputs →
      (afterHazardRead w).safety.state = .idle → Completes (afterHazardRead w) inputs now →
      ∀ v, K .complete v)
    (hfail : (runtimeControlUpdate w dt now).1 = false →
      ∀ v, K (.drive false) v ∧ K (.seek false) v) :
    Operations K w (runtimeControlUpdate w dt now).2 := by
  unfold runtimeControlUpdate at hfail ⊢
  by_cases hhome : w.motion.data.state = .homing
  · rw [if_neg (not_not.mpr hhome), homingControl_eq] at hfail ⊢
    split_ifs at hfail ⊢ with hstop
    · exact operations_afterHazardRead hK w
    · have hs := afterHazardRead_idle (hidle hhome) hstop
      have hm := afterHazardRead_motion hs
      refine (operations_afterHazardRead hK w).trans (operations_seekUpdate hK hs ?_ ?_ ?_ ?_ ?_)
      · rwa [hm]
      · rw [hm]
        exact hreg.homing hhome
      · intro hlate
        rw [hm] at hlate
        exact hexpire hhome hlate _ hm
      · intro hcomp
        cases hg : w.io.gpioReadInputs with
        | none => simpa [hg] using hcomp.negative
        | some inputs =>
          rw [hg] at hcomp
          exact hcomplete hhome inputs hg hs hcomp _
      · exact fun hfalse => (hfail hfalse _).2
  · rw [if_pos hhome] at hfail ⊢
    have hdrive : ∀ v : World, v.motion.data.state ≠ .homing →
        ((motionUpdate v.toAxis dt).1 = false → K (.drive false) v) →
        Operations K v { v with toAxis := (motionUpdate v.toAxis dt).2 } := by
      intro v hv hfalse
      refine Operations.single ?_ (.drive hv)
      cases hok : (motionUpdate v.toAxis dt).1 with
      | true => exact hK.drive v
      | false => exact hfalse hok
    dsimp only at hfail ⊢
    by_cases hcontact : w.safety.homeContact = true
    · rw [if_pos hcontact] at hfail ⊢
      exact (operations_reevaluate hK w).trans (hdrive _
        (reevaluate_state_ne_homing hreg.settled hhome) fun hfalse => (hfail hfalse _).1)
    · rw [if_neg hcontact] at hfail ⊢
      exact hdrive w hhome fun hfalse => (hfail hfalse _).1

omit [Rounding] in
/-- Adopting a latch keeps the world regular. -/
lemma World.Regular.runtimeSafetySync (h : w.Regular) : (runtimeSafetySync w).Regular := by
  by_cases hidle : w.safety.state = .idle
  · rwa [runtimeSafetySync_of_idle hidle]
  · refine ⟨fun hhome => ?_, by simpa [SafetyManager.Settled] using h.settled⟩
    rw [runtimeSafetySync_state hidle] at hhome
    exact absurd hhome h.settled.ne_homing

omit [Rounding] in
/-- A controller that is in `HOMING` after adopting the state of the safety manager was there
before, with the safety manager in `IDLE`. -/
lemma idle_of_runtimeSafetySync_homing (h : w.Regular)
    (hhome : (runtimeSafetySync w).motion.data.state = .homing) : w.safety.state = .idle := by
  by_contra hidle
  rw [runtimeSafetySync_state hidle] at hhome
  exact h.settled.ne_homing hhome

/-- The operations of a failed update. -/
lemma operations_updateFailed (hK : Common K) {active : Bool}
    (hfault : ∀ v, K .internalFault v) (hcount : ∀ v, K .countAbort v) (w : World) :
    Operations K w (updateFailed w active) := by
  have hfail : ∀ v : World, Operations K v (runtimeSafetySync (raiseInternal v v.task.nowMs)) :=
    fun v => (Operations.single (hfault v) (.internalFault v _)).trans
      (Operations.single (hK.sync _) (.sync _))
  cases active with
  | true => exact (Operations.single (hcount w) (.countAbort w)).trans (hfail _)
  | false => exact hfail w

/-- The control section succeeds when its update does. -/
lemma controlSection_result (w : World) :
    (controlSection w).1 = (attemptUpdate (runtimeSafetySync w)).1 := by
  unfold controlSection
  dsimp only
  split_ifs with h
  · rfl
  · exact (Bool.not_eq_true _ ▸ h).symm

/-- A control section that fails raises the internal fault. -/
lemma controlSection_of_false (h : (controlSection w).1 = false) :
    (controlSection w).2 = updateFailed (attemptUpdate (runtimeSafetySync w)).2
      (runtimeSafetySync w).motion.data.state.active := by
  rw [controlSection_result] at h
  unfold controlSection
  dsimp only
  rw [if_neg (by rw [h]; exact nofun)]

/-- The operations of the control section of a release. -/
theorem operations_controlSection (hK : Common K) (hreg : w.Regular)
    (hexpire : w.motion.data.state = .homing →
      homingTimeoutMs ≤ w.task.nowMs - w.motion.data.homing.startedMs →
      ∀ v, v.motion = w.motion → K .expire v)
    (hcomplete : w.task.sampled = true → w.safety.state = .idle → w.motion.data.state = .homing →
      ∀ inputs, w.io.gpioReadInputs = some inputs →
      (afterHazardRead w).safety.state = .idle →
      Completes (afterHazardRead w) inputs w.task.nowMs → ∀ v, K .complete v)
    (hfail : (controlSection w).1 = false → ∀ v, K .internalFault v ∧ K .countAbort v ∧
      K (.drive false) v ∧ K (.seek false) v) :
    Operations K w (controlSection w).2 := by
  have hsync := Operations.single (hK.sync w) (.sync w)
  have hresult : (attemptUpdate (runtimeSafetySync w)).1 = false → (controlSection w).1 = false :=
    fun hfalse => (controlSection_result w).trans hfalse
  have hupdate : Operations K (runtimeSafetySync w) (attemptUpdate (runtimeSafetySync w)).2 := by
    unfold attemptUpdate at hresult ⊢
    rw [runtimeSafetySync_task] at hresult ⊢
    split_ifs at hresult ⊢ with hsampled
    · have hsame : (runtimeSafetySync w).motion.data.state = .homing → runtimeSafetySync w = w :=
        fun hhome => runtimeSafetySync_of_idle (idle_of_runtimeSafetySync_homing hreg hhome)
      refine operations_controlUpdate hK (fun hhome => ?_) hreg.runtimeSafetySync
        (fun hhome => ?_) (fun hhome => ?_) (fun hfalse v => (hfail (hresult hfalse) v).2.2)
      · simpa using idle_of_runtimeSafetySync_homing hreg hhome
      · have hw := hsame hhome
        rw [hw] at hhome ⊢
        exact hexpire hhome
      · have hidle := idle_of_runtimeSafetySync_homing hreg hhome
        have hw := hsame hhome
        rw [hw] at hhome ⊢
        exact hcomplete hsampled hidle hhome
    · exact Operations.refl _
  unfold controlSection at hfail ⊢
  dsimp only at hfail ⊢
  split_ifs at hfail ⊢
  · exact hsync.trans hupdate
  · have hkind := hfail rfl
    exact (hsync.trans hupdate).trans
      (operations_updateFailed hK (fun v => (hkind v).1) (fun v => (hkind v).2.1) _)

/-! ### The operations of one step -/

/-- The step executes a command. -/
def Executes (a : Action) (w : World) (command : MotionCommand) : Prop :=
  ∃ r i, a = .motion r ∧ w.task.phase = .execute i command ∧ w.task.app = .idle

/-- The step accepts a command of the given types. -/
def Accepts (p : CommandType → Bool) (a : Action) (w : World) : Prop :=
  ∃ command, Executes a w command ∧ p command.type = true ∧
    (runtimeSafetyCommand w command).1 = .accepted

/-- The same as a computation. -/
def accepts (p : CommandType → Bool) (a : Action) (w : World) : Bool :=
  match a, w.task.phase with
  | .motion _, .execute _ command =>
    w.task.app == .idle && p command.type && (runtimeSafetyCommand w command).1 == .accepted
  | _, _ => false

lemma accepts_iff (p : CommandType → Bool) (a : Action) (w : World) :
    Accepts p a w ↔ accepts p a w = true := by
  constructor
  · rintro ⟨command, ⟨r, i, rfl, hphase, happ⟩, htype, haccepted⟩
    simp [accepts, hphase, happ, htype, haccepted]
  · intro h
    unfold accepts at h
    split at h
    next r i command hphase =>
      simp only [Bool.and_eq_true, beq_iff_eq] at h
      exact ⟨command, ⟨r, i, rfl, hphase, h.1.1⟩, h.1.2, h.2⟩
    · exact absurd h nofun

instance (p : CommandType → Bool) (a : Action) (w : World) : Decidable (Accepts p a w) :=
  decidable_of_iff' _ (accepts_iff p a w)

omit [Rounding] in
/-- Whether a step is a certain step of the Motion task can be checked. -/
instance (a : Action) (p : Prop) [Decidable p] : Decidable (∃ r, a = .motion r ∧ p) :=
  match a with
  | .motion r => decidable_of_iff p ⟨fun h => ⟨r, rfl, h⟩, fun ⟨_, _, h⟩ => h⟩
  | .safety | .heartbeat _ | .request _ => .isFalse nofun

/-- The step takes a sample. -/
def Samples (a : Action) (w : World) : Prop := ∃ r, a = .motion r ∧ w.task.phase = .sample

instance (a : Action) (w : World) : Decidable (Samples a w) :=
  inferInstanceAs (Decidable (∃ r, a = .motion r ∧ w.task.phase = .sample))

/-- The step is the control section of a release. -/
def Updates (a : Action) (w : World) : Prop := ∃ r, a = .motion r ∧ w.task.phase = .update

instance (a : Action) (w : World) : Decidable (Updates a w) :=
  inferInstanceAs (Decidable (∃ r, a = .motion r ∧ w.task.phase = .update))

/-- The step takes one of the two failure paths of the Motion task: after a failed sample, or after
a failed update. -/
def Fails (a : Action) (w : World) : Prop :=
  (∃ r, a = .motion r) ∧
    (w.task.phase = .reconcile ∧ w.task.sampled = false ∨
      w.task.phase = .update ∧ (controlSection w).1 = false)

/-- The step completes a `HOME`. -/
def CompletesHome (a : Action) (w : World) : Prop :=
  Updates a w ∧ w.task.sampled = true ∧ w.safety.state = .idle ∧ w.motion.data.state = .homing ∧
    (afterHazardRead w).safety.state = .idle ∧
    ∃ inputs, w.io.gpioReadInputs = some inputs ∧
      Completes (afterHazardRead w) inputs w.task.nowMs

/-- The step finds the deadline of a `HOME` passed. -/
def ExpiresHome (a : Action) (w : World) : Prop :=
  Updates a w ∧ w.motion.data.state = .homing ∧
    homingTimeoutMs ≤ w.task.nowMs - w.motion.data.homing.startedMs

/-- The operations that a step from `w` may perform, with the world in which it does. -/
def Performs (a : Action) (w : World) : OperationKind → World → Prop
  | .configure, v => (∃ r, a = .motion r ∧ w.task.phase = .configure) ∧ v = w
  | .sample, _ => ∃ r, a = .motion r ∧ w.task.phase = .sample
  | .request, _ => ∃ duty, a = .request duty
  | .reset, v => Accepts (· == .reset) a w ∧ v.motion = w.motion
  | .home now, _ => Accepts (· == .home) a w ∧ now = w.io.platformTimeMs
  | .move, _ => Accepts (fun t => t == .moveAbs || t == .moveRel) a w
  | .expire, v => ExpiresHome a w ∧ v.motion = w.motion
  | .complete, _ => CompletesHome a w
  | .drive ok, _ => ok = false → Fails a w
  | .seek ok, _ => ok = false → Fails a w
  | .internalFault, _ => Fails a w
  | .countAbort, _ => Fails a w
  | .abort, _ => (∃ r, a = .motion r) ∧ w.task.phase = .reconcile ∧ w.task.sampled = false
  | _, _ => True

lemma common_performs (a : Action) (w : World) : Common (Performs a w) :=
  ⟨fun _ => trivial, fun _ => trivial, fun _ => trivial, fun _ => trivial, fun _ => trivial,
    fun _ => trivial, fun _ => trivial, fun _ => trivial, fun _ => nofun, fun _ => nofun⟩

variable {a : Action}

/-- The operations of the section after the sample. -/
lemma operations_taskReconcile {r : Option MotionCommand} (hphase : w.task.phase = .reconcile) :
    Operations (Performs (.motion r) w) w (taskReconcile w) := by
  have hK := common_performs (.motion r) w
  have hsync : ∀ v, Operations (Performs (.motion r) w) v
      ((runtimeSafetySync v).goto (.receive 0)) := fun v =>
    (Operations.single (hK.sync v) (.sync v)).trans
      (Operations.single (hK.bookkeeping _) (.bookkeeping { SameAxis.refl _ with }))
  unfold taskReconcile
  split_ifs with hsampled
  · exact hsync w
  · have hfails : Fails (.motion r) w := ⟨⟨r, rfl⟩, Or.inl ⟨hphase, by simpa using hsampled⟩⟩
    refine Operations.trans ?_ (hsync _)
    have hcount : Operations (Performs (.motion r) w) w
        (if w.task.beforeSafety.active then w.countAbort else w) := by
      split_ifs
      · exact Operations.single (k := .countAbort) hfails (.countAbort w)
      · exact Operations.refl w
    have habort : ∀ v : World, Operations (Performs (.motion r) w) v
        (if v.task.beforeSafety = .homing then
          v.onAxis fun x => homingAbort x .faulted else v) := by
      intro v
      split_ifs
      · exact Operations.single (k := .abort) ⟨⟨r, rfl⟩, hphase, by simpa using hsampled⟩ (.abort v)
      · exact Operations.refl v
    have hraise : ∀ v : World, Operations (Performs (.motion r) w) v
        (raiseInternal v v.task.nowMs) := fun v =>
      Operations.single (k := .internalFault) hfails (.internalFault v _)
    exact (hcount.trans (habort _)).trans (hraise _)

/-- The operations of the section that executes a command. -/
lemma operations_taskExecute {r : Option MotionCommand} {i : ℕ} {command : MotionCommand}
    (hphase : w.task.phase = .execute i command) :
    Operations (Performs (.motion r) w) w (taskExecute w i command) := by
  have hK := common_performs (.motion r) w
  have hgoto : ∀ (v : World) phase, Operations (Performs (.motion r) w) v (v.goto phase) :=
    fun v _ => Operations.single (hK.bookkeeping v) (.bookkeeping { SameAxis.refl v with })
  unfold taskExecute
  dsimp only
  split_ifs with happ
  · have hexec : Executes (.motion r) w command := ⟨r, i, rfl, hphase, happ⟩
    refine (operations_command hK w command ?_ ?_ ?_).trans (hgoto _ _)
    · exact fun hacc htype v hv => ⟨⟨command, hexec, by simp [htype], hacc⟩, hv⟩
    · exact fun hacc htype v => ⟨⟨command, hexec, by simp [htype], hacc⟩, rfl⟩
    · exact fun hacc htype v => ⟨command, hexec, by simpa using htype, hacc⟩
  · exact hgoto _ _

/-- The operations of the publication. -/
lemma operations_publishRelease (hK : Common K) (w : World) (updated : Bool) :
    Operations K w (publishRelease w updated) := by
  have hsame : SameAxis w.publish (publishRelease w updated) :=
    { SameAxis.refl w.publish with }
  exact (Operations.single (hK.publish w) (.publish w)).trans
    (Operations.single (hK.bookkeeping _) (.bookkeeping hsame))

/-- The operations of the control section with the publication. -/
lemma operations_taskUpdate (hreg : w.Regular) {r : Option MotionCommand}
    (hphase : w.task.phase = .update) :
    Operations (Performs (.motion r) w) w (taskUpdate w) := by
  have hK := common_performs (.motion r) w
  have hupdates : Updates (.motion r) w := ⟨r, rfl, hphase⟩
  have hsection : Operations (Performs (.motion r) w) w (controlSection w).2 := by
    refine operations_controlSection hK hreg ?_ ?_ ?_
    · exact fun hhome hlate v hv => ⟨⟨hupdates, hhome, hlate⟩, hv⟩
    · exact fun hs hidle hhome inputs hread hafter hcomp v =>
        ⟨hupdates, hs, hidle, hhome, hafter, inputs, hread, hcomp⟩
    · intro hfail v
      have hfails : Fails (.motion r) w := ⟨⟨r, rfl⟩, Or.inr ⟨hphase, hfail⟩⟩
      exact ⟨hfails, hfails, fun _ => hfails, fun _ => hfails⟩
  exact hsection.trans (operations_publishRelease hK _ _)

/-- **Decomposition.**  Every step is a sequence of the operations that it may perform. -/
theorem operations_step (hreg : w.Regular) (a : Action) :
    Operations (Performs a w) w (step a w) := by
  have hK := common_performs a w
  have hbook : ∀ {v v' : World}, SameAxis v v' → Operations (Performs a w) v v' :=
    fun h => Operations.single (hK.bookkeeping _) (.bookkeeping h)
  have hdisable : ∀ v : World, Operations (Performs a w) v v.disable :=
    fun v => Operations.single (k := .disable) trivial (.disable v)
  cases a with
  | motion r =>
    change Operations _ w (motionStep w r)
    unfold motionStep
    split
    next => exact (hdisable w).trans (hbook { SameAxis.refl _ with })
    next hphase =>
      unfold taskConfigure
      split
      next => exact Operations.refl w
      next x hx =>
        exact (Operations.single (k := .configure) ⟨⟨r, rfl, hphase⟩, rfl⟩ (.configure hx)).trans
          (hbook { SameAxis.refl _ with })
    next => exact hbook { SameAxis.afterTime w with }
    next =>
      unfold taskBegin
      split_ifs
      · exact (hdisable w).trans (hbook { SameAxis.refl _ with })
      · exact hbook { SameAxis.refl _ with }
    next => exact hbook { SameAxis.afterTime w with }
    next hphase =>
      have hsame : SameAxis { w with toAxis := (motionSample w.toAxis w.task.dt).2 }
          (taskSample w) :=
        { SameAxis.refl _ with }
      exact (Operations.single (k := .sample) ⟨r, rfl, hphase⟩ (.sample w w.task.dt)).trans
        (hbook hsame)
    next hphase => exact operations_taskReconcile hphase
    next i _ =>
      unfold taskReceive
      split
      next => exact hbook { SameAxis.refl _ with }
      next =>
        dsimp only
        split_ifs
        · exact hbook { SameAxis.refl _ with }
        · exact hbook { SameAxis.refl _ with }
    next i command hphase => exact operations_taskExecute hphase
    next => exact hbook { SameAxis.refl _ with }
    next hphase => exact operations_taskUpdate hreg hphase
  | safety =>
    change Operations _ w (safetyTask w)
    have heval := Operations.single (hK.evaluate w) (.evaluate w)
    unfold safetyTask
    generalize runtimeSafetyEvaluate w = v at heval
    dsimp only
    split_ifs
    · exact heval.trans (hbook { SameAxis.refl v with safety := ⟨_, rfl⟩ })
    · exact heval
  | heartbeat id => exact hbook { SameAxis.afterTime w with }
  | request duty => exact Operations.single (k := .request) ⟨duty, rfl⟩ (.request w duty)

/-! ### Invariants of the runtime -/

end MotionFirmware
