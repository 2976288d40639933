import MotionFirmware.Foundation.Binary32
import MotionFirmware.Rtos.StopRanks

/-!
# The stop of the firmware

`runtime_request_stop` takes effect at the checkpoints.  There a task marks itself in `tasks_parked`
and suspends itself, Motion after it has disabled the motor.  A suspended task stays so, and nothing
that the others do after the suspension of Motion drives the motor.
-/

namespace MotionFirmware

/-- Communications is suspended. -/
def CommsAt.isParked : CommsAt → Bool
  | .parked => true
  | _ => false

/-- Motion has passed the checkpoint of a stop. -/
def MotionAt.isParked : MotionAt → Bool
  | .parked => true
  | _ => false

/-- Telemetry is suspended. -/
def TelemetryStage.isParked : TelemetryStage → Bool
  | .parked => true
  | _ => false

/-- Safety is suspended. -/
def SafetyStage.isParked : SafetyStage → Bool
  | .parked => true
  | _ => false

/-- Motion has passed the checkpoint of a stop, and has still to disable the motor or has done
so. -/
def MotionStage.isParked : MotionStage → Bool
  | .disable | .parked => true
  | _ => false

/-- The bit of a task in `tasks_parked`. -/
def parkedBit (id : UInt32) (parked : Bool) : UInt32 := if parked then 1 <<< id else 0

variable {δ ε : Type} {driver : InputDriver δ ε} {f : Firmware δ}

/-- `tasks_parked` of `runtime_data`. -/
def Firmware.allParked (f : Firmware δ) : UInt32 := f.pipeline.tasksParked ||| f.tasksParked

/-- The tasks that have passed the checkpoint of a stop. -/
def Firmware.suspended (f : Firmware δ) : UInt32 :=
  parkedBit taskMotion f.motion.isParked |||
    parkedBit taskSafety f.safety.isParked |||
    parkedBit taskComms f.pipeline.comms.isParked |||
    parkedBit taskTelemetry f.telemetry.isParked

/-! ### The marks of the tasks -/

/-- The pipeline marks Motion and Communications. -/
def Pipeline.Marked (p : Pipeline δ) : Prop :=
  p.tasksParked = parkedBit taskMotion p.motion.isParked ||| parkedBit taskComms p.comms.isParked

/-- The firmware marks Safety and Telemetry. -/
def Firmware.Marked (f : Firmware δ) : Prop :=
  f.tasksParked =
    parkedBit taskSafety f.safety.isParked ||| parkedBit taskTelemetry f.telemetry.isParked

lemma Pipeline.Marked.of_same {p p' : Pipeline δ} (h : p.Marked)
    (hparked : p'.tasksParked = p.tasksParked) (hmotion : p'.motion.isParked = p.motion.isParked)
    (hcomms : p'.comms.isParked = p.comms.isParked) : p'.Marked := by
  unfold Pipeline.Marked at h ⊢
  rw [hparked, hmotion, hcomms]
  exact h

lemma marked_afterRead (i : ℕ) (read : Except UartError (List UInt8)) :
    (CommsAt.afterRead i read).isParked = false := by
  unfold CommsAt.afterRead
  split <;> rfl

lemma marked_nextRead (i : ℕ) : (CommsAt.nextRead i).isParked = false := by
  unfold CommsAt.nextRead
  split_ifs <;> rfl

lemma Pipeline.Marked.checkpoint_comms {p : Pipeline δ} (h : p.Marked) (place : CommsAt)
    (hplace : place.isParked = false) (hcomms : p.comms.isParked = false) :
    ({ runtimeCheckpoint taskComms p with
      comms := if p.stopping then .parked else place } : Pipeline δ).Marked := by
  unfold Pipeline.Marked runtimeCheckpoint at *
  dsimp only
  rw [hcomms] at h
  rw [h]
  cases p.stopping with
  | true =>
    change _ = parkedBit taskMotion p.motion.isParked ||| parkedBit taskComms true
    cases p.motion.isParked <;> rfl
  | false =>
    change _ = _ ||| parkedBit taskComms place.isParked
    rw [hplace]
    rfl

lemma Pipeline.Marked.comms {p : Pipeline δ} (h : p.Marked) : (commsTask driver p).Marked := by
  unfold commsTask
  cases hcomms : p.comms with
  | checkpoint => exact h.checkpoint_comms .heartbeat rfl (by rw [hcomms]; rfl)
  | resumed value => exact h.checkpoint_comms (.count value) rfl (by rw [hcomms]; rfl)
  | take =>
    dsimp only
    split_ifs
    · exact h
    · exact h.of_same rfl rfl (by rw [hcomms]; rfl)
  | drain i => exact h.of_same rfl rfl (by rw [hcomms]; exact marked_afterRead i _)
  | frame i line =>
    have hframe : (p.handleFrame line).tasksParked = p.tasksParked ∧
        (p.handleFrame line).motion = p.motion := by
      unfold Pipeline.handleFrame
      split <;> exact ⟨rfl, rfl⟩
    exact h.of_same hframe.1 (congrArg MotionAt.isParked hframe.2)
      (by rw [hcomms]; exact marked_nextRead _)
  | pending =>
    refine h.of_same rfl rfl ?_
    rw [hcomms]
    dsimp only
    split_ifs <;> rfl
  | parked => exact h
  | heartbeat | count | failed | give | delay => exact h.of_same rfl rfl (by rw [hcomms]; rfl)

lemma Pipeline.Marked.motion {p : Pipeline δ} (h : p.Marked) : (motionTaskCommands p).Marked := by
  unfold motionTaskCommands
  cases hmotion : p.motion with
  | checkpoint =>
    unfold Pipeline.Marked runtimeCheckpoint at *
    rw [hmotion] at h
    dsimp only
    rw [h]
    cases p.stopping with
    | true => cases p.comms.isParked <;> decide
    | false => rfl
  | receive i =>
    dsimp only
    split_ifs
    · split <;> exact h.of_same rfl (by rw [hmotion]; rfl) rfl
    · exact h.of_same rfl (by rw [hmotion]; rfl) rfl
  | taken i command => exact h.of_same rfl (by rw [hmotion]; rfl) rfl
  | parked => exact h

/-- **Step lemma.**  Every step of the pipeline keeps the marks. -/
lemma Pipeline.Marked.step {p : Pipeline δ} (h : p.Marked) (b : PipelineAction ε) :
    (pipelineStep driver b p).Marked := by
  cases b with
  | comms => exact h.comms
  | motion => exact h.motion
  | timeout =>
    change (commsTimeout p).Marked
    unfold commsTimeout
    split
    next hcomms => exact h.of_same rfl rfl (by rw [hcomms]; rfl)
    next => exact h
  | arrive e =>
    refine h.of_same ?_ ?_ ?_
    all_goals
      cases hsignal : driver.signal e p.input <;> simp [pipelineStep, hsignal, Pipeline.notify]
  | inputReady | requestStop => exact h.of_same rfl rfl rfl

variable [Rounding]

omit [Rounding] in
lemma Firmware.Marked.of_same {g : Firmware δ} (h : f.Marked)
    (hparked : g.tasksParked = f.tasksParked) (hsafety : g.safety = f.safety)
    (htelemetry : g.telemetry = f.telemetry) : g.Marked := by
  unfold Firmware.Marked at h ⊢
  rw [hparked, hsafety, htelemetry]
  exact h

omit [Rounding] in
lemma beat_tasksParked (id : TaskHealthId) (f : Firmware δ) :
    (f.beat id).tasksParked = f.tasksParked := by
  unfold Firmware.beat
  split_ifs <;> rfl

/-- Only Safety and Telemetry mark themselves outside of the pipeline. -/
lemma firmwareStep_tasksParked {a : FirmwareAction ε} (hsafety : ∀ now, a ≠ .safety now)
    (htelemetry : a ≠ .telemetry) (f : Firmware δ) :
    (firmwareStep driver a f).tasksParked = f.tasksParked := by
  cases a with
  | safety now => exact absurd rfl (hsafety now)
  | telemetry => exact absurd rfl htelemetry
  | motion now =>
    unfold firmwareStep reportOr
    dsimp only
    split_ifs
    · unfold Firmware.motionTaskStep
      cases f.motion with
      | running =>
        dsimp only
        unfold Firmware.motionSection
        split
        · unfold Firmware.receiveSection
          split
          · rfl
          · dsimp only
            split <;> rfl
        · rfl
        · rfl
      | heartbeat => exact beat_tasksParked .motion f
      | _ => rfl
    · rfl
  | comms now =>
    unfold firmwareStep reportOr
    dsimp only
    split_ifs
    · unfold Firmware.commsStep
      cases f.pipeline.comms with
      | heartbeat => exact beat_tasksParked .comms f
      | _ => rfl
    · rfl
  | timeout =>
    unfold firmwareStep
    dsimp only
    split_ifs <;> rfl
  | arrive | inputReady | requestStop | setFilter => rfl

/-- The checkpoint of Safety. -/
lemma Firmware.Marked.safety (h : f.Marked) : f.safetyStep.Marked := by
  unfold Firmware.safetyStep
  cases hstage : f.safety with
  | checkpoint =>
    unfold Firmware.Marked Firmware.checkpoint at *
    rw [hstage] at h
    dsimp only
    rw [h]
    cases f.pipeline.stopping with
    | true => cases f.telemetry.isParked <;> rfl
    | false => rfl
  | parked => exact h
  | heartbeat =>
    have hbeat : (f.beat .safety).tasksParked = f.tasksParked ∧
        (f.beat .safety).telemetry = f.telemetry := by
      unfold Firmware.beat
      split_ifs <;> exact ⟨rfl, rfl⟩
    unfold Firmware.Marked at h ⊢
    dsimp only
    rw [hbeat.1, hbeat.2, h, hstage]
    rfl
  | evaluate | wait =>
    unfold Firmware.Marked at h ⊢
    rw [hstage] at h
    exact h

omit [Rounding] in
/-- The checkpoint of Telemetry. -/
lemma Firmware.Marked.telemetry (h : f.Marked) : f.telemetryStep.Marked := by
  unfold Firmware.telemetryStep
  cases hstage : f.telemetry with
  | checkpoint =>
    unfold Firmware.Marked Firmware.checkpoint at *
    rw [hstage] at h
    dsimp only
    rw [h]
    cases f.pipeline.stopping with
    | true => cases f.safety.isParked <;> rfl
    | false => rfl
  | receive i =>
    unfold Firmware.Marked at h
    rw [hstage] at h
    dsimp only
    split_ifs
    · split <;> exact h
    · exact h
  | parked => exact h
  | emit | count | snapshot | wait =>
    unfold Firmware.Marked at h ⊢
    rw [hstage] at h
    exact h

/-- **Step lemma.**  Every step keeps the marks of Safety and Telemetry. -/
lemma Firmware.Marked.step (h : f.Marked) (a : FirmwareAction ε) :
    (firmwareStep driver a f).Marked := by
  by_cases hsafety : ∀ now, a ≠ .safety now
  · by_cases htelemetry : a = .telemetry
    · subst htelemetry
      exact h.telemetry
    · exact h.of_same (firmwareStep_tasksParked hsafety htelemetry f)
        (firmwareStep_safety hsafety f) (firmwareStep_telemetry htelemetry f)
  · push Not at hsafety
    obtain ⟨now, rfl⟩ := hsafety
    unfold firmwareStep reportOr
    dsimp only
    split_ifs
    · exact h.safety
    · exact h

/-- `tasks_parked` says which tasks are suspended. -/
lemma allParked_firmware (driver : InputDriver δ ε) (env : Environment) (input : δ)
    (as : List (FirmwareAction ε)) :
    (firmware driver env input as).allParked = (firmware driver env input as).suspended := by
  have haligned := aligned_firmware driver env input as
  have hpipeline : (firmware driver env input as).pipeline.Marked := by
    rw [pipeline_firmware]
    exact Machine.run_invariant_of_forall (fun b _ hp => hp.step b)
      (show (0 : UInt32) = 0 ||| 0 from rfl)
  have hfirmware : (firmware driver env input as).Marked :=
    Machine.run_invariant_of_forall (fun a _ hf => hf.step a) (show (0 : UInt32) = 0 ||| 0 from rfl)
  generalize firmware driver env input as = f at *
  have hmotion : f.pipeline.motion.isParked = f.motion.isParked := by
    unfold Firmware.Aligned at haligned
    cases hstage : f.motion with
    | running =>
      rw [hstage] at haligned
      dsimp only at haligned
      generalize f.world.task.phase = phase at haligned
      cases phase with
      | receive i =>
        rcases haligned.2 with hplace | ⟨command, hplace⟩ <;> rw [hplace] <;> rfl
      | execute | report =>
        rw [haligned.2]
        rfl
      | update => rcases haligned with hplace | hplace <;> rw [hplace] <;> rfl
      | _ =>
        rw [haligned]
        rfl
    | disable | parked =>
      rw [hstage] at haligned
      rw [haligned.2.1]
      rfl
    | _ =>
      rw [hstage] at haligned
      rw [haligned.2]
      rfl
  unfold Firmware.allParked Firmware.suspended
  rw [hpipeline, hfirmware, hmotion]
  ac_rfl

/-! ### The motor after the stop -/

/-- Nobody drives the axis from the first world to the second. -/
structure Undriven (w w' : World) : Prop where
  motion : w'.motion = w.motion
  task : w'.task = w.task
  published : w'.rt.motion = w.rt.motion
  requested : w'.io.motor.requested = w.io.motor.requested
  output : w.io.motor.output = 0 → w'.io.motor.output = 0

omit [Rounding] in
lemma undriven_heartbeat (w : World) (id : TaskHealthId) : Undriven w (runtimeHeartbeat w id) :=
  ⟨rfl, rfl, rfl, rfl, fun h => h⟩

/-- An evaluation drives nothing. -/
lemma undriven_safety (w : World) : Undriven w (safetyTask w) := by
  have hevaluate : Undriven w (runtimeSafetyEvaluate w) := by
    refine ⟨by simp, by simp, by simp, ?_, fun h => ?_⟩
    · rw [runtimeSafetyEvaluate_motor]
      unfold enforcedMotor
      dsimp only
      split_ifs <;> rfl
    · rw [runtimeSafetyEvaluate_motor]
      rcases enforcedMotor_output (applyEvaluation w) with hsame | hzero
      · rw [hsame]
        exact h
      · exact hzero
  unfold safetyTask
  dsimp only
  split_ifs
  · exact ⟨hevaluate.motion, hevaluate.task, hevaluate.published, hevaluate.requested,
      hevaluate.output⟩
  · exact hevaluate

omit [Rounding] in
lemma Undriven.refl (w : World) : Undriven w w := ⟨rfl, rfl, rfl, rfl, id⟩

omit [Rounding] in
lemma Undriven.trans {u v w : World} (h : Undriven u v) (h' : Undriven v w) : Undriven u w :=
  ⟨h'.motion.trans h.motion, h'.task.trans h.task, h'.published.trans h.published,
    h'.requested.trans h.requested, fun hzero => h'.output (h.output hzero)⟩

/-- The other tasks do not drive the axis. -/
lemma undriven_step {a : FirmwareAction ε} (h : ∀ now, a ≠ .motion now)
    (hmotor : f.world.io.motor.initialized = true) :
    Undriven f.world (firmwareStep driver a f).world := by
  have hbeat : ∀ id, Undriven f.world (Machine.run step f.world (f.beatLabels id)) := by
    intro id
    unfold Firmware.beatLabels
    split_ifs
    · exact undriven_heartbeat f.world id
    · exact .refl f.world
  rw [world_step a hmotor]
  cases a with
  | motion now => exact absurd rfl (h now)
  | safety now =>
    unfold worldLabels
    dsimp only
    split_ifs
    · cases f.safety with
      | heartbeat => exact hbeat .safety
      | evaluate => exact undriven_safety f.world
      | _ => exact .refl f.world
    · exact .refl f.world
  | comms now =>
    unfold worldLabels
    dsimp only
    split_ifs
    · cases f.pipeline.comms with
      | heartbeat => exact hbeat .comms
      | _ => exact .refl f.world
    · exact .refl f.world
  | _ => exact .refl f.world

/-- Motion is suspended and the motor is off. -/
structure Firmware.Halted (f : Firmware δ) : Prop where
  parked : f.motion = .parked
  silent : (f.outbox .motion).empty = true
  requested : f.world.io.motor.requested = 0
  output : f.world.io.motor.output = 0

/-- Motion can be suspended only with the motor off. -/
def Firmware.OffWhenParked (f : Firmware δ) : Prop := f.motion = .parked → f.Halted

/-- A step after the suspension of Motion. -/
lemma Firmware.Halted.step (driver : InputDriver δ ε) (h : f.Halted)
    (hmotor : f.world.io.motor.initialized = true) (a : FirmwareAction ε) :
    (firmwareStep driver a f).Halted ∧ Undriven f.world (firmwareStep driver a f).world := by
  by_cases hother : ∀ now, a ≠ .motion now
  · have hundriven : Undriven f.world (firmwareStep driver a f).world :=
      undriven_step hother hmotor
    have hreporter : a.reporter ≠ some .motion := by
      cases a with
      | motion now => exact absurd rfl (hother now)
      | _ => exact nofun
    refine ⟨⟨(sameMotion_step hother f).stage.trans h.parked, ?_, ?_, hundriven.output h.output⟩,
      hundriven⟩
    · rw [firmwareStep_outbox hreporter]
      exact h.silent
    · exact hundriven.requested.trans h.requested
  · push Not at hother
    obtain ⟨now, rfl⟩ := hother
    have hsame : firmwareStep driver (.motion now) f = f := by
      unfold firmwareStep reportOr
      dsimp only
      rw [if_pos h.silent]
      unfold Firmware.motionTaskStep
      rw [h.parked]
    rw [hsame]
    exact ⟨h, .refl f.world⟩

/-- A section of a release does not suspend Motion. -/
lemma motionSection_ne_parked (h : f.motion = .running) : f.motionSection.motion ≠ .parked := by
  have hafter : ∀ received, (f.runSection received).motion ≠ .parked := by
    intro received
    change Firmware.afterSection f.world.task.phase ≠ .parked
    cases f.world.task.phase <;> exact nofun
  unfold Firmware.motionSection
  split
  · unfold Firmware.receiveSection
    split
    next command _ => exact hafter (some command)
    next =>
      dsimp only
      split
      · change f.motion ≠ .parked
        rw [h]
        exact nofun
      · exact hafter none
  · exact hafter none
  · exact hafter none

/-- **Step lemma.**  Motion is suspended by the step that has disabled the motor. -/
lemma Firmware.OffWhenParked.step (h : f.OffWhenParked)
    (hmotor : f.world.io.motor.initialized = true) (a : FirmwareAction ε) :
    (firmwareStep driver a f).OffWhenParked := by
  intro hparked
  by_cases hbefore : f.motion = .parked
  · exact ((h hbefore).step driver hmotor a).1
  · by_cases hother : ∀ now, a ≠ .motion now
    · exact absurd ((sameMotion_step hother f).stage.symm.trans hparked) hbefore
    · push Not at hother
      obtain ⟨now, rfl⟩ := hother
      unfold firmwareStep reportOr at hparked ⊢
      dsimp only at hparked ⊢
      cases hempty : (f.outbox .motion).empty with
      | false =>
        rw [hempty] at hparked
        exact absurd hparked hbefore
      | true =>
        rw [hempty] at hparked
        rw [if_pos rfl] at hparked ⊢
        unfold Firmware.motionTaskStep at hparked ⊢
        cases hstage : f.motion with
        | disable => exact ⟨rfl, hempty, rfl, rfl⟩
        | parked => exact absurd hstage hbefore
        | running =>
          rw [hstage] at hparked
          exact absurd hparked (motionSection_ne_parked hstage)
        | checkpoint =>
          rw [hstage] at hparked
          dsimp only at hparked
          split_ifs at hparked
        | heartbeat | wait =>
          rw [hstage] at hparked
          exact absurd hparked nofun

/-- In every run Motion is suspended only with the motor off. -/
lemma offWhenParked_firmware (driver : InputDriver δ ε) (env : Environment) (input : δ)
    (as : List (FirmwareAction ε)) : (firmware driver env input as).OffWhenParked := by
  induction as using List.reverseRecOn with
  | nil => exact nofun
  | append_singleton as a ih =>
    rw [firmware_append]
    exact ih.step (motor_initialized driver env input as) a

/-- A stop is requested, and has taken effect everywhere after enough steps of every task. -/
lemma stopping_request (driver : InputDriver δ ε) (env : Environment) (input : δ)
    (as : List (FirmwareAction ε)) :
    (firmware driver env input (as ++ [.requestStop])).Stopping := by
  refine ⟨aligned_firmware driver env input _, ?_⟩
  rw [firmware_append]
  rfl

/-- Motion is suspended by the 122nd of its steps after a stop. -/
lemma motion_parks (driver : InputDriver δ ε) (env : Environment) (input : δ)
    (as bs : List (FirmwareAction ε)) (h : 122 ≤ bs.countP FirmwareAction.isMotion) :
    (firmware driver env input (as ++ .requestStop :: bs)).motion = .parked := by
  have hstop := stopping_request driver env input as
  have hbound := motionRank_bound (short_firmware driver env input (as ++ [.requestStop]))
  have hrun : firmware driver env input (as ++ .requestStop :: bs) =
      Machine.run (firmwareStep driver) (firmware driver env input (as ++ [.requestStop])) bs := by
    unfold firmware
    rw [← Machine.run_append, List.append_assoc, List.singleton_append]
  refine motion_of_rank (aligned_firmware driver env input _) ?_
  rw [hrun]
  refine (ranks_motion driver).rank_eq_zero hstop ?_
  rw [Machine.count_eq_countP]
  exact hbound.trans h

/-- **Shutdown.**  After a request to stop every task is suspended within a bounded number of its
own steps (for Communications, steps that are not blocked and timeouts), whatever the others do;
`tasks_parked` says which tasks have passed the checkpoint; and once Motion is suspended the motor
is off. -/
theorem firmware_shutdown (driver : InputDriver δ ε) (env : Environment) (input : δ)
    (as bs : List (FirmwareAction ε)) :
    let f := firmware driver env input (as ++ .requestStop :: bs)
    (122 ≤ bs.countP FirmwareAction.isMotion → f.motion = .parked) ∧
      (16 ≤ bs.countP FirmwareAction.isSafety → f.safety = .parked) ∧
      (69 ≤ bs.countP FirmwareAction.isTelemetry → f.telemetry = .parked) ∧
      (33 ≤ Machine.count (firmwareStep driver) FirmwareAction.movesComms
        (firmware driver env input (as ++ [.requestStop])) bs → f.pipeline.comms = .parked) ∧
      f.allParked = f.suspended ∧
      (f.motion = .parked → f.world.io.motor.requested = 0 ∧ f.world.io.motor.output = 0) := by
  intro f
  have hstop := stopping_request driver env input as
  have hshort := short_firmware driver env input (as ++ [.requestStop])
  have hrun : f = Machine.run (firmwareStep driver)
      (firmware driver env input (as ++ [.requestStop])) bs := by
    unfold f firmware
    rw [← Machine.run_append, List.append_assoc, List.singleton_append]
  refine ⟨motion_parks driver env input as bs, fun h => ?_, fun h => ?_, fun h => ?_,
    allParked_firmware driver env input _, fun h => ?_⟩
  · have hzero : f.safetyRank = 0 := by
      rw [hrun]
      refine (ranks_safety driver).rank_eq_zero hstop ?_
      rw [Machine.count_eq_countP]
      exact (safetyRank_bound hshort).trans h
    unfold Firmware.safetyRank at hzero
    cases hstage : f.safety <;> simp [hstage] at hzero ⊢
  · have hzero : f.telemetryRank = 0 := by
      rw [hrun]
      refine (ranks_telemetry driver).rank_eq_zero hstop ?_
      rw [Machine.count_eq_countP]
      exact (telemetryRank_bound _).trans h
    unfold Firmware.telemetryRank at hzero
    cases hstage : f.telemetry <;> simp [hstage] at hzero ⊢
  · have hzero : f.commsRank = 0 := by
      rw [hrun]
      exact (ranks_comms driver).rank_eq_zero hstop ((commsRank_bound hshort).trans h)
    unfold Firmware.commsRank at hzero
    cases hplace : f.pipeline.comms <;> simp [hplace, CommsAt.rank] at hzero ⊢
  · have hhalted := offWhenParked_firmware driver env input (as ++ .requestStop :: bs) h
    exact ⟨hhalted.requested, hhalted.output⟩

/-- A stop of the idle target, with enough steps of every task. -/
def idleStop : List (FirmwareAction Reception) :=
  List.replicate 33 (.comms 0) ++ List.replicate 122 (.motion 0) ++
    List.replicate 16 (.safety 0) ++ List.replicate 69 .telemetry

/-- The idle target in binary32 arithmetic, after a request to stop. -/
def stoppedTarget (as : List (FirmwareAction Reception)) : Firmware Uart :=
  @firmware Binary32.rounding _ _ stm32Driver standstill {} (.requestStop :: as)

omit [Rounding] in
/-- The idle target is suspended. -/
theorem firmware_shutdown_idle :
    (stoppedTarget idleStop).motion = .parked ∧ (stoppedTarget idleStop).safety = .parked ∧
      (stoppedTarget idleStop).telemetry = .parked ∧
      (stoppedTarget idleStop).pipeline.comms = .parked := by
  obtain ⟨hmotion, hsafety, htelemetry, hcomms, -⟩ :=
    @firmware_shutdown _ _ Binary32.rounding stm32Driver standstill {} [] idleStop
  simp only [List.nil_append] at hmotion hsafety htelemetry hcomms
  have hsteps : 33 ≤ Machine.count (@firmwareStep Binary32.rounding _ _ stm32Driver)
      FirmwareAction.movesComms (@firmware Binary32.rounding _ _ stm32Driver standstill {}
        [.requestStop]) idleStop := by decide +kernel
  unfold stoppedTarget
  exact ⟨hmotion (by decide +kernel), hsafety (by decide +kernel), htelemetry (by decide +kernel),
    hcomms hsteps⟩

/-- **No motion after the stop.**  Once Motion is suspended it stays so, whatever the other tasks,
the interrupts and the host do: the motor stays off, and the controller, the local variables of
Motion and what it has published stay as they are. -/
theorem parked_motion_stays (driver : InputDriver δ ε) (env : Environment) (input : δ)
    (as bs : List (FirmwareAction ε)) (h : (firmware driver env input as).motion = .parked) :
    let f := firmware driver env input as
    let g := firmware driver env input (as ++ bs)
    g.motion = .parked ∧ g.world.io.motor.output = 0 ∧ g.world.io.motor.requested = 0 ∧
      g.world.motion = f.world.motion ∧ g.world.task = f.world.task ∧
      g.world.rt.motion = f.world.rt.motion := by
  intro f g
  have hhalted := offWhenParked_firmware driver env input as h
  have hinvariant : g.Halted ∧ Undriven f.world g.world := by
    induction bs using List.reverseRecOn with
    | nil =>
      unfold g
      rw [List.append_nil]
      exact ⟨hhalted, .refl _⟩
    | append_singleton bs b ih =>
      have hrun : g = firmwareStep driver b (firmware driver env input (as ++ bs)) := by
        unfold g firmware
        rw [← List.append_assoc, Machine.run_append]
        rfl
      obtain ⟨hnext, hundriven⟩ := ih.1.step driver
        (motor_initialized driver env input (as ++ bs)) b
      rw [hrun]
      exact ⟨hnext, ih.2.trans hundriven⟩
  exact ⟨hinvariant.1.parked, hinvariant.1.output, hinvariant.1.requested, hinvariant.2.motion,
    hinvariant.2.task, hinvariant.2.published⟩

omit [Rounding] in
/-- The idle target stays off. -/
theorem parked_motion_stays_idle :
    (stoppedTarget (idleStop ++ [.safety 0, .motion 0])).motion = .parked :=
  (@parked_motion_stays _ _ Binary32.rounding stm32Driver standstill {} (.requestStop :: idleStop)
    [.safety 0, .motion 0]
    (@motion_parks _ _ Binary32.rounding stm32Driver standstill {} [] idleStop
      (by decide +kernel))).1

end MotionFirmware
