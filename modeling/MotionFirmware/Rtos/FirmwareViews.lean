import MotionFirmware.Rtos.Firmware
import MotionFirmware.Rtos.MotorGate
import MotionFirmware.Rtos.Phases

/-!
# The two halves of the firmware

A step of the firmware is a list of actions of the runtime, and a list of steps of the pipeline.
The stop of Motion, which disables the motor, is the request of a duty of zero.

The two halves agree on where Motion is: it receives in the pipeline exactly when its release has
come to a `command_bus_receive`, so that what it executes is what it has received.
-/

namespace MotionFirmware

namespace Firmware

variable {δ ε : Type}

/-- The heartbeat of a task as an action of the runtime, unless the filter swallows it. -/
def beatLabels (id : TaskHealthId) (f : Firmware δ) : List Action :=
  if f.heartbeatFilter id then [.heartbeat id] else []

/-- What a section of Motion is to the runtime. -/
def sectionLabels (f : Firmware δ) : List Action :=
  match f.world.task.phase with
  | .receive _ =>
    match f.pipeline.motion with
    | .taken _ command => [.motion (some command)]
    | _ =>
      match (motionTaskCommands f.pipeline).motion with
      | .taken _ _ => []
      | _ => [.motion none]
  | _ => [.motion none]

/-- What a step of Motion is to the runtime. -/
def motionLabels (f : Firmware δ) : List Action :=
  match f.motion with
  | .running => f.sectionLabels
  | .heartbeat => f.beatLabels .motion
  | .disable => [.request 0]
  | _ => []

/-- What a step of Motion is to the pipeline. -/
def motionPipeline (f : Firmware δ) : List (PipelineAction ε) :=
  match f.motion with
  | .running =>
    match f.world.task.phase with
    | .receive _ => [.motion]
    | .update =>
      match f.pipeline.motion with
      | .receive _ => [.motion]
      | _ => []
    | _ => []
  | .checkpoint => [.motion]
  | _ => []

end Firmware

variable {δ ε : Type}

/-- What a step of the firmware is to the runtime. -/
def worldLabels (a : FirmwareAction ε) (f : Firmware δ) : List Action :=
  match a with
  | .motion _ => if (f.outbox .motion).empty then f.motionLabels else []
  | .safety _ =>
    if (f.outbox .safety).empty then
      match f.safety with
      | .heartbeat => f.beatLabels .safety
      | .evaluate => [.safety]
      | _ => []
    else []
  | .comms _ =>
    if (f.outbox .comms).empty then
      match f.pipeline.comms with
      | .heartbeat => f.beatLabels .comms
      | _ => []
    else []
  | _ => []

/-- What a step of the firmware is to the pipeline. -/
def pipelineLabels (a : FirmwareAction ε) (f : Firmware δ) : List (PipelineAction ε) :=
  match a with
  | .motion _ => if (f.outbox .motion).empty then f.motionPipeline else []
  | .comms _ => if (f.outbox .comms).empty then [.comms] else []
  | .timeout => if (f.outbox .comms).empty then [.timeout] else []
  | .arrive e => [.arrive e]
  | .inputReady producer => [.inputReady producer]
  | .requestStop => [.requestStop]
  | _ => []

/-- Motion is one party of the pipeline. -/
lemma mem_motionPipeline {f : Firmware δ} {b : PipelineAction ε} (h : b ∈ f.motionPipeline) :
    b = .motion := by
  unfold Firmware.motionPipeline at h
  repeat' split at h
  all_goals first | exact List.mem_singleton.mp h | exact absurd h nofun

variable [Rounding] {driver : InputDriver δ ε} {f : Firmware δ}

/-! ### The projections -/

omit [Rounding] in
/-- Disabling the motor is the request of a duty of zero. -/
lemma disable_eq_request {w : World} (h : w.io.motor.initialized = true) :
    w.disable = foreignRequest w 0 := by
  have hmotor : (motorSetOutput w.io.motor 0).2 = motorDisable w.io.motor := by
    have hduty : (saturateDuty 0).1 = 0 := by decide
    unfold motorSetOutput motorDisable
    rw [h, hduty]
    simp
  unfold World.disable foreignRequest Peripherals.motorDisable
  rw [hmotor]

lemma world_beat (id : TaskHealthId) (f : Firmware δ) :
    (f.beat id).world = Machine.run step f.world (f.beatLabels id) := by
  unfold Firmware.beat Firmware.beatLabels
  split_ifs <;> rfl

/-- A section of Motion, as the runtime sees it. -/
lemma world_motionSection (f : Firmware δ) :
    f.motionSection.world = Machine.run step f.world f.sectionLabels := by
  unfold Firmware.motionSection Firmware.sectionLabels
  cases hphase : f.world.task.phase with
  | receive i =>
    unfold Firmware.receiveSection
    cases hmotion : f.pipeline.motion with
    | taken => rfl
    | _ => cases htaken : (motionTaskCommands f.pipeline).motion <;> simp only [htaken] <;> rfl
  | _ => rfl

/-- Every step is, to the runtime, the list of actions that it is labelled with. -/
lemma world_step (a : FirmwareAction ε) (hmotor : f.world.io.motor.initialized = true) :
    (firmwareStep driver a f).world = Machine.run step f.world (worldLabels a f) := by
  cases a with
  | motion now =>
    unfold firmwareStep reportOr worldLabels
    dsimp only
    split_ifs
    · unfold Firmware.motionTaskStep Firmware.motionLabels
      cases f.motion with
      | running => exact world_motionSection f
      | heartbeat => exact world_beat .motion f
      | disable => exact disable_eq_request hmotor
      | wait | checkpoint | parked => rfl
    · rfl
  | safety now =>
    unfold firmwareStep reportOr worldLabels
    dsimp only
    split_ifs
    · unfold Firmware.safetyStep
      cases f.safety with
      | heartbeat => exact world_beat .safety f
      | checkpoint | evaluate | wait | parked => rfl
    · rfl
  | comms now =>
    unfold firmwareStep reportOr worldLabels
    dsimp only
    split_ifs
    · unfold Firmware.commsStep
      cases f.pipeline.comms with
      | heartbeat => exact world_beat .comms f
      | _ => rfl
    · rfl
  | telemetry =>
    unfold firmwareStep Firmware.telemetryStep
    dsimp only
    split <;> try rfl
    split_ifs
    · split <;> rfl
    · rfl
  | timeout =>
    unfold firmwareStep
    dsimp only
    split_ifs <;> rfl
  | arrive | inputReady | requestStop | setFilter => rfl

/-- Every step is, to the pipeline, the list of steps that it is labelled with. -/
lemma pipeline_step (a : FirmwareAction ε) (f : Firmware δ) :
    (firmwareStep driver a f).pipeline =
      Machine.run (pipelineStep driver) f.pipeline (pipelineLabels a f) := by
  have hbeat : ∀ id, (f.beat id).pipeline = f.pipeline := by
    intro id
    unfold Firmware.beat
    split_ifs <;> rfl
  cases a with
  | motion now =>
    unfold firmwareStep reportOr pipelineLabels
    dsimp only
    split_ifs
    · unfold Firmware.motionTaskStep Firmware.motionPipeline
      cases f.motion with
      | running =>
        dsimp only
        unfold Firmware.motionSection
        cases hphase : f.world.task.phase with
        | receive i =>
          unfold Firmware.receiveSection
          cases hmotion : f.pipeline.motion with
          | taken => rfl
          | _ =>
            cases htaken : (motionTaskCommands f.pipeline).motion <;> simp only [htaken] <;> rfl
        | update =>
          unfold Firmware.leaveLoop
          cases hmotion : f.pipeline.motion <;> rfl
        | _ => rfl
      | heartbeat => exact hbeat .motion
      | checkpoint | wait | disable | parked => rfl
    · rfl
  | safety now =>
    unfold firmwareStep reportOr pipelineLabels
    dsimp only
    split_ifs
    · unfold Firmware.safetyStep
      cases f.safety with
      | heartbeat => exact hbeat .safety
      | checkpoint | evaluate | wait | parked => rfl
    · rfl
  | comms now =>
    unfold firmwareStep reportOr pipelineLabels
    dsimp only
    split_ifs <;> rfl
  | telemetry =>
    unfold firmwareStep Firmware.telemetryStep
    dsimp only
    split <;> try rfl
    split_ifs
    · split <;> rfl
    · rfl
  | timeout =>
    unfold firmwareStep pipelineLabels
    dsimp only
    split_ifs <;> rfl
  | arrive | inputReady | requestStop | setFilter => rfl

/-- The runtime half: every run of the firmware is a run of the runtime. -/
theorem projects_world (driver : InputDriver δ ε) (env : Environment) :
    Machine.Projects (firmwareStep driver) step Firmware.world worldLabels
      (fun f => ∃ bs, f.world = runtime env bs) where
  keeps a f hf := by
    obtain ⟨bs, hworld⟩ := hf
    have hmotor : f.world.io.motor.initialized = true := by
      rw [hworld]
      exact (gateSafe_runtime env bs).motor.initialized
    refine ⟨bs ++ worldLabels a f, ?_⟩
    rw [world_step a hmotor, hworld]
    exact Machine.run_append.symm
  image a f hf := by
    obtain ⟨bs, hworld⟩ := hf
    refine world_step a ?_
    rw [hworld]
    exact (gateSafe_runtime env bs).motor.initialized

/-- The command half: every run of the firmware is a run of the pipeline. -/
theorem projects_pipeline (driver : InputDriver δ ε) :
    Machine.Projects (firmwareStep driver) (pipelineStep driver) Firmware.pipeline pipelineLabels
      (fun _ => True) where
  keeps _ _ _ := trivial
  image a f _ := pipeline_step a f

/-- The actions of the runtime in a run of the firmware. -/
def worldTrace (driver : InputDriver δ ε) (env : Environment) (input : δ)
    (as : List (FirmwareAction ε)) : List Action :=
  Machine.trace (firmwareStep driver) worldLabels (firmwareInit env input) as

/-- The steps of the pipeline in a run of the firmware. -/
def pipelineTrace (driver : InputDriver δ ε) (env : Environment) (input : δ)
    (as : List (FirmwareAction ε)) : List (PipelineAction ε) :=
  Machine.trace (firmwareStep driver) pipelineLabels (firmwareInit env input) as

/-- The firmware after a run and one more step. -/
lemma firmware_append (driver : InputDriver δ ε) (env : Environment) (input : δ)
    (as : List (FirmwareAction ε)) (a : FirmwareAction ε) :
    firmware driver env input (as ++ [a]) = firmwareStep driver a (firmware driver env input as) :=
  Machine.run_append

lemma world_firmware (driver : InputDriver δ ε) (env : Environment) (input : δ)
    (as : List (FirmwareAction ε)) :
    (firmware driver env input as).world = runtime env (worldTrace driver env input as) :=
  (projects_world driver env).run_eq ⟨[], rfl⟩ as

/-- The motor driver stays initialised. -/
lemma motor_initialized (driver : InputDriver δ ε) (env : Environment) (input : δ)
    (as : List (FirmwareAction ε)) :
    (firmware driver env input as).world.io.motor.initialized = true := by
  rw [world_firmware]
  exact (gateSafe_runtime env _).motor.initialized

lemma pipeline_firmware (driver : InputDriver δ ε) (env : Environment) (input : δ)
    (as : List (FirmwareAction ε)) :
    (firmware driver env input as).pipeline =
      Machine.run (pipelineStep driver) { input := input } (pipelineTrace driver env input as) :=
  (projects_pipeline driver).run_eq trivial as

/-! ### The reports of a step -/

omit [Rounding] in
lemma beat_outbox (id : TaskHealthId) (f : Firmware δ) : (f.beat id).outbox = f.outbox := by
  unfold Firmware.beat
  split_ifs <;> rfl

omit [Rounding] in
/-- What another task is given to report is nothing new. -/
lemma enqueue_outbox_of_ne {who other : Reporter} (h : other ≠ who) (reports : List Report)
    (f : Firmware δ) : (f.enqueue who reports).outbox other = f.outbox other :=
  Function.update_of_ne h _ _

omit [Rounding] in
lemma report_outbox_of_ne {who other : Reporter} (h : other ≠ who) (now : UInt32)
    (f : Firmware δ) : (f.report who now).outbox other = f.outbox other :=
  Function.update_of_ne h _ _

omit [Rounding] in
lemma telemetryStep_outbox (f : Firmware δ) : f.telemetryStep.outbox = f.outbox := by
  unfold Firmware.telemetryStep
  cases f.telemetry with
  | receive i =>
    dsimp only
    split_ifs
    · split <;> rfl
    · rfl
  | _ => rfl

/-- A step leaves the queue and Telemetry alone, and gives a task at most such reports. -/
structure Enqueues (who : Reporter) (P : List Report → Prop) (f g : Firmware δ) : Prop where
  diagnostics : g.diagnostics = f.diagnostics
  telemetry : g.telemetry = f.telemetry
  outbox : g.outbox = f.outbox ∨ ∃ reports, P reports ∧ g.outbox = (f.enqueue who reports).outbox

omit [Rounding] in
/-- The reports of the other tasks stay. -/
lemma Enqueues.outbox_of_ne {who other : Reporter} {P : List Report → Prop} {f g : Firmware δ}
    (h : Enqueues who P f g) (hother : other ≠ who) : g.outbox other = f.outbox other := by
  rcases h.outbox with hsame | ⟨reports, -, hreports⟩
  · rw [hsame]
  · rw [hreports]
    exact enqueue_outbox_of_ne hother reports f

omit [Rounding] in
lemma enqueues_beat (who : Reporter) (P : List Report → Prop) (id : TaskHealthId)
    (f : Firmware δ) : Enqueues who P f (f.beat id) := by
  unfold Firmware.beat
  split_ifs
  · exact ⟨rfl, rfl, Or.inl rfl⟩
  · exact ⟨rfl, rfl, Or.inl rfl⟩

/-- What Motion may have to report after a step. -/
lemma enqueues_motionTaskStep (f : Firmware δ) :
    Enqueues .motion (fun reports => ∃ received,
      reports = motionReports f.world (motionStep f.world received) received) f
      f.motionTaskStep := by
  unfold Firmware.motionTaskStep
  cases f.motion with
  | running =>
    dsimp only
    unfold Firmware.motionSection
    split
    · unfold Firmware.receiveSection
      split
      · exact ⟨rfl, rfl, Or.inr ⟨_, ⟨_, rfl⟩, rfl⟩⟩
      · dsimp only
        split
        · exact ⟨rfl, rfl, Or.inl rfl⟩
        · exact ⟨rfl, rfl, Or.inr ⟨_, ⟨_, rfl⟩, rfl⟩⟩
    · exact ⟨rfl, rfl, Or.inr ⟨_, ⟨_, rfl⟩, rfl⟩⟩
    · exact ⟨rfl, rfl, Or.inr ⟨_, ⟨_, rfl⟩, rfl⟩⟩
  | heartbeat =>
    obtain ⟨hdiagnostics, htelemetry, houtbox⟩ := enqueues_beat .motion _ .motion f
    exact ⟨hdiagnostics, htelemetry, houtbox⟩
  | _ => exact ⟨rfl, rfl, Or.inl rfl⟩

/-- What Safety may have to report after a step. -/
lemma enqueues_safetyStep (f : Firmware δ) :
    Enqueues .safety (fun reports => reports = safetyReports f.world (safetyTask f.world)) f
      f.safetyStep := by
  unfold Firmware.safetyStep
  cases f.safety with
  | heartbeat =>
    obtain ⟨hdiagnostics, htelemetry, houtbox⟩ := enqueues_beat .safety _ .safety f
    exact ⟨hdiagnostics, htelemetry, houtbox⟩
  | evaluate => exact ⟨rfl, rfl, Or.inr ⟨_, rfl, rfl⟩⟩
  | _ => exact ⟨rfl, rfl, Or.inl rfl⟩

omit [Rounding] in
/-- What Communications may have to report after a step. -/
lemma enqueues_commsStep (f : Firmware δ) :
    Enqueues .comms (fun reports => reports = commsReports f.pipeline) f (f.commsStep driver) := by
  unfold Firmware.commsStep
  cases f.pipeline.comms with
  | heartbeat =>
    obtain ⟨hdiagnostics, htelemetry, -⟩ := enqueues_beat .comms (fun _ => True) .comms f
    refine ⟨hdiagnostics, htelemetry, Or.inr ⟨_, rfl, ?_⟩⟩
    simp only [Firmware.enqueue, beat_outbox]
  | _ => exact ⟨rfl, rfl, Or.inr ⟨_, rfl, rfl⟩⟩

/-- The task that a step belongs to, if it is one that reports. -/
def FirmwareAction.reporter : FirmwareAction ε → Option Reporter
  | .motion _ => some .motion
  | .safety _ => some .safety
  | .comms _ => some .comms
  | _ => none

/-- A step leaves the reports of the other tasks alone. -/
lemma firmwareStep_outbox {a : FirmwareAction ε} {who : Reporter} (h : a.reporter ≠ some who)
    (f : Firmware δ) : (firmwareStep driver a f).outbox who = f.outbox who := by
  have hne : ∀ {other}, a.reporter = some other → who ≠ other := by
    rintro other ha rfl
    exact h ha
  cases a with
  | motion now =>
    unfold firmwareStep reportOr
    dsimp only
    split_ifs
    · exact (enqueues_motionTaskStep f).outbox_of_ne (hne rfl)
    · exact report_outbox_of_ne (hne rfl) now f
  | safety now =>
    unfold firmwareStep reportOr
    dsimp only
    split_ifs
    · exact (enqueues_safetyStep f).outbox_of_ne (hne rfl)
    · exact report_outbox_of_ne (hne rfl) now f
  | comms now =>
    unfold firmwareStep reportOr
    dsimp only
    split_ifs
    · exact (enqueues_commsStep f).outbox_of_ne (hne rfl)
    · exact report_outbox_of_ne (hne rfl) now f
  | telemetry => exact congrFun (telemetryStep_outbox f) who
  | timeout =>
    unfold firmwareStep
    dsimp only
    split_ifs <;> rfl
  | arrive | inputReady | requestStop | setFilter => rfl

/-! ### Where the halves meet -/

/-- A section of Motion, and the place of Motion in the pipeline. -/
def Phase.Meets : Phase → MotionAt → Prop
  | .create, m | .configure, m | .anchor, m => m = .checkpoint
  | .begin, m | .clock, m | .sample, m | .reconcile, m => m = .receive 0
  | .receive i, m => i < commandLimit ∧ (m = .receive i ∨ ∃ command, m = .taken i command)
  | .execute i _, m | .report i _, m => i < commandLimit ∧ m = .receive (i + 1)
  | .update, m => m = .checkpoint ∨ m = .receive commandLimit

/-- The halves agree on where Motion is. -/
def Firmware.Aligned (f : Firmware δ) : Prop :=
  match f.motion with
  | .running => f.world.task.phase.Meets f.pipeline.motion
  | .heartbeat | .wait | .checkpoint =>
    f.world.task.phase = .begin ∧ f.pipeline.motion = .checkpoint
  | .disable | .parked =>
    f.world.task.phase = .begin ∧ f.pipeline.motion = .parked ∧ f.pipeline.stopping = true

omit [Rounding] in
/-- The command after the `i`-th one is received, or the loop is left. -/
lemma meets_nextCommand {i : ℕ} (hi : i < commandLimit) :
    (nextCommand i).Meets (.receive (i + 1)) := by
  unfold nextCommand
  unfold commandLimit at hi
  split_ifs with hnext
  · exact ⟨hnext, Or.inl rfl⟩
  · refine Or.inr ?_
    have hlast : i + 1 = commandLimit := by
      unfold commandLimit
      omega
    rw [hlast]

omit [Rounding] in
lemma motionTaskCommands_receive {p : Pipeline δ} {i : ℕ} (hmotion : p.motion = .receive i)
    (hi : i < commandLimit) :
    ((motionTaskCommands p).motion = .checkpoint ∧ p.bus.queue.items = []) ∨
      ∃ command, (motionTaskCommands p).motion = .taken i command ∧
        p.bus.queue.items.head? = some command := by
  unfold motionTaskCommands
  rw [hmotion]
  dsimp only
  rw [if_pos hi]
  cases hitems : p.bus.queue.items with
  | nil =>
    rw [commandBusReceive_nil hitems]
    exact Or.inl ⟨rfl, rfl⟩
  | cons command rest =>
    obtain ⟨hsome, -, -⟩ := commandBusReceive_cons hitems
    rcases hreceive : commandBusReceive p.bus with ⟨first, bus⟩
    rw [hreceive] at hsome
    obtain rfl : first = some command := hsome
    exact Or.inr ⟨command, rfl, rfl⟩

omit [Rounding] in
/-- In a release the halves are aligned if its phase meets the pipeline. -/
lemma aligned_of_meets (hmotion : f.motion = .running)
    (h : f.world.task.phase.Meets f.pipeline.motion) : f.Aligned := by
  unfold Firmware.Aligned
  rw [hmotion]
  exact h

omit [Rounding] in
/-- The loop is left at the checkpoint. -/
lemma leaveLoop_motion {p : Pipeline δ}
    (h : p.motion = .checkpoint ∨ p.motion = .receive commandLimit) :
    (Firmware.leaveLoop p).motion = .checkpoint := by
  unfold Firmware.leaveLoop
  rcases h with hmotion | hmotion
  · rw [hmotion]
    exact hmotion
  · simp [motionTaskCommands, hmotion]

/-- The section that receives a command. -/
lemma aligned_receiveSection {i : ℕ} (hrunning : f.motion = .running)
    (hphase : f.world.task.phase = .receive i) (h : f.world.task.phase.Meets f.pipeline.motion) :
    f.receiveSection.Aligned := by
  have hafter : Firmware.afterSection f.world.task.phase = .running := by
    rw [hphase]
    rfl
  rw [hphase] at h
  obtain ⟨hi, hmotion | ⟨command, hmotion⟩⟩ := h
  · unfold Firmware.receiveSection
    rw [hmotion]
    dsimp only
    rcases motionTaskCommands_receive hmotion hi with ⟨hnone, -⟩ | ⟨command, hsome, -⟩
    · have hnext : (motionStep f.world none).task.phase = .update := by
        simp only [motionStep, hphase, taskReceive, World.goto]
      rw [hnone]
      refine aligned_of_meets hafter ?_
      change (motionStep f.world none).task.phase.Meets _
      rw [hnext]
      exact Or.inl hnone
    · rw [hsome]
      refine aligned_of_meets hrunning ?_
      dsimp only
      rw [hphase]
      exact ⟨hi, Or.inr ⟨command, hsome⟩⟩
  · have hnext : (motionTaskCommands f.pipeline).motion = .receive (i + 1) := by
      simp only [motionTaskCommands, hmotion]
    have hstep : (motionStep f.world (some command)).task.phase =
        if command.type = .status ∨ command.type = .help then nextCommand i
        else .execute i command := by
      simp only [motionStep, hphase, taskReceive]
      split_ifs <;> rfl
    unfold Firmware.receiveSection
    rw [hmotion]
    refine aligned_of_meets hafter ?_
    change (motionStep f.world (some command)).task.phase.Meets
      (motionTaskCommands f.pipeline).motion
    rw [hstep, hnext]
    split_ifs
    · exact meets_nextCommand hi
    · exact ⟨hi, rfl⟩

/-- A section of a release keeps the halves aligned. -/
lemma aligned_motionSection (hrunning : f.motion = .running)
    (h : f.world.task.phase.Meets f.pipeline.motion) : f.motionSection.Aligned := by
  have hfollows := follows_motionStep f.world none
  have hrun : Firmware.afterSection f.world.task.phase = .running →
      (motionStep f.world none).task.phase.Meets f.pipeline.motion →
      (f.runSection none).Aligned := fun hafter hmeets => aligned_of_meets hafter hmeets
  unfold Firmware.motionSection
  cases hphase : f.world.task.phase with
  | receive i => exact aligned_receiveSection hrunning hphase h
  | update =>
    rw [hphase] at h
    have hmotion : Firmware.afterSection f.world.task.phase = .heartbeat := by
      rw [hphase]
      rfl
    have hnext : (motionStep f.world none).task.phase = .begin := by
      simp only [motionStep, hphase]
      rfl
    unfold Firmware.Aligned Firmware.runSection
    dsimp only
    rw [hmotion]
    exact ⟨hnext, leaveLoop_motion h⟩
  | anchor =>
    rw [hphase] at h
    have hmotion : Firmware.afterSection f.world.task.phase = .checkpoint := by
      rw [hphase]
      rfl
    have hnext : (motionStep f.world none).task.phase = .begin := by
      simp only [motionStep, hphase]
      rfl
    unfold Firmware.Aligned Firmware.runSection
    dsimp only
    rw [hmotion]
    exact ⟨hnext, h⟩
  | report i result =>
    have hnext : (motionStep f.world none).task.phase = nextCommand i := by
      simp only [motionStep, hphase, taskReport]
    rw [hphase] at h
    refine hrun (by rw [hphase]; rfl) ?_
    rw [hnext, h.2]
    exact meets_nextCommand h.1
  | reconcile =>
    have hnext : (motionStep f.world none).task.phase = .receive 0 := by
      simp only [motionStep, hphase, taskReconcile, World.goto]
    rw [hphase] at h
    refine hrun (by rw [hphase]; rfl) ?_
    rw [hnext]
    exact ⟨by decide, Or.inl h⟩
  | _ =>
    rw [hphase] at h hfollows
    refine hrun (by rw [hphase]; rfl) ?_
    generalize (motionStep f.world none).task.phase = next at hfollows ⊢
    cases hfollows <;> exact h

/-- What the other tasks leave to Motion. -/
structure SameMotion (f g : Firmware δ) : Prop where
  stage : g.motion = f.motion
  phase : g.world.task.phase = f.world.task.phase
  place : g.pipeline.motion = f.pipeline.motion
  stopping : f.pipeline.stopping = true → g.pipeline.stopping = true

omit [Rounding] in
lemma SameMotion.aligned {g : Firmware δ} (h : SameMotion f g) (hf : f.Aligned) : g.Aligned := by
  unfold Firmware.Aligned at hf ⊢
  rw [h.stage, h.phase, h.place]
  split at hf
  · exact hf
  · exact hf
  · exact hf
  · exact hf
  · exact ⟨hf.1, hf.2.1, h.stopping hf.2.2⟩
  · exact ⟨hf.1, hf.2.1, h.stopping hf.2.2⟩

omit [Rounding] in
/-- Communications leaves Motion, and the request to stop, as they are. -/
lemma commsTask_motion (driver : InputDriver δ ε) (p : Pipeline δ) :
    (commsTask driver p).motion = p.motion ∧ (commsTask driver p).stopping = p.stopping := by
  unfold commsTask
  split <;> try exact ⟨rfl, rfl⟩
  · split_ifs <;> exact ⟨rfl, rfl⟩
  · unfold Pipeline.handleFrame
    split <;> exact ⟨rfl, rfl⟩

omit [Rounding] in
/-- What happens to the pipeline from outside leaves Motion as it is. -/
lemma pipelineStep_motion {a : PipelineAction ε} (h : a ≠ .motion) (p : Pipeline δ) :
    (pipelineStep driver a p).motion = p.motion ∧
      (p.stopping = true → (pipelineStep driver a p).stopping = true) := by
  cases a with
  | motion => exact absurd rfl h
  | comms => exact ⟨(commsTask_motion driver p).1, fun hp => (commsTask_motion driver p).2.trans hp⟩
  | timeout =>
    change (commsTimeout p).motion = _ ∧ (_ → (commsTimeout p).stopping = true)
    unfold commsTimeout
    split <;> exact ⟨rfl, id⟩
  | arrive e =>
    change (p.notify (driver.signal e p.input)).motion = _ ∧
      (_ → (p.notify (driver.signal e p.input)).stopping = true)
    cases driver.signal e p.input <;> exact ⟨rfl, id⟩
  | inputReady => exact ⟨rfl, id⟩
  | requestStop => exact ⟨rfl, fun _ => rfl⟩

omit [Rounding] in
lemma sameMotion_beat (id : TaskHealthId) (f : Firmware δ) : SameMotion f (f.beat id) := by
  unfold Firmware.beat
  split_ifs <;> exact ⟨rfl, rfl, rfl, fun h => h⟩

/-- The steps of the others leave Motion as it is. -/
lemma sameMotion_step {a : FirmwareAction ε} (h : ∀ now, a ≠ .motion now) (f : Firmware δ) :
    SameMotion f (firmwareStep driver a f) := by
  have hpipeline : ∀ b : PipelineAction ε, b ≠ .motion →
      SameMotion f { f with pipeline := pipelineStep driver b f.pipeline } := fun b hb =>
    ⟨rfl, rfl, (pipelineStep_motion hb f.pipeline).1, (pipelineStep_motion hb f.pipeline).2⟩
  cases a with
  | motion now => exact absurd rfl (h now)
  | safety now =>
    unfold firmwareStep reportOr
    dsimp only
    split_ifs
    · unfold Firmware.safetyStep
      split
      · exact ⟨rfl, rfl, rfl, id⟩
      · exact { sameMotion_beat .safety f with }
      · have htask := (step_other (a := .safety) (w := f.world) nofun).1
        exact ⟨rfl, congrArg MotionTask.phase htask, rfl, id⟩
      · exact ⟨rfl, rfl, rfl, id⟩
      · exact ⟨rfl, rfl, rfl, id⟩
    · exact ⟨rfl, rfl, rfl, id⟩
  | comms now =>
    unfold firmwareStep reportOr
    dsimp only
    split_ifs
    · obtain ⟨hmotion, hstopping⟩ := commsTask_motion driver f.pipeline
      unfold Firmware.commsStep
      split
      · have hbeat := sameMotion_beat .comms f
        exact ⟨hbeat.stage, hbeat.phase, hmotion, fun hf => hstopping.trans hf⟩
      · exact ⟨rfl, rfl, hmotion, fun hf => hstopping.trans hf⟩
    · exact ⟨rfl, rfl, rfl, id⟩
  | telemetry =>
    unfold firmwareStep Firmware.telemetryStep
    dsimp only
    split <;> try exact ⟨rfl, rfl, rfl, id⟩
    split_ifs
    · split <;> exact ⟨rfl, rfl, rfl, id⟩
    · exact ⟨rfl, rfl, rfl, id⟩
  | timeout =>
    unfold firmwareStep
    dsimp only
    split_ifs
    · exact hpipeline .timeout nofun
    · exact ⟨rfl, rfl, rfl, id⟩
  | arrive e => exact hpipeline (.arrive e) nofun
  | inputReady producer => exact hpipeline (.inputReady producer) nofun
  | requestStop => exact hpipeline .requestStop nofun
  | setFilter filter => exact ⟨rfl, rfl, rfl, id⟩

/-- **Step lemma.**  Every step keeps the halves aligned. -/
theorem Firmware.Aligned.step (hf : f.Aligned) (a : FirmwareAction ε) :
    (firmwareStep driver a f).Aligned := by
  by_cases hother : ∀ now, a ≠ .motion now
  · exact (sameMotion_step hother f).aligned hf
  push Not at hother
  obtain ⟨now, rfl⟩ := hother
  unfold firmwareStep reportOr
  dsimp only
  split_ifs
  · unfold Firmware.motionTaskStep
    cases hstage : f.motion with
    | running =>
      unfold Firmware.Aligned at hf
      rw [hstage] at hf
      exact aligned_motionSection hstage hf
    | heartbeat =>
      have hbeat := (sameMotion_beat .motion f).aligned hf
      unfold Firmware.Aligned at hbeat ⊢
      rw [(sameMotion_beat .motion f).stage, hstage] at hbeat
      exact hbeat
    | wait =>
      unfold Firmware.Aligned at hf ⊢
      rw [hstage] at hf
      exact hf
    | checkpoint =>
      unfold Firmware.Aligned at hf ⊢
      rw [hstage] at hf
      obtain ⟨hphase, hmotion⟩ := hf
      have hnext : (motionTaskCommands f.pipeline).motion =
            (if f.pipeline.stopping then .parked else .receive 0) ∧
          (motionTaskCommands f.pipeline).stopping = f.pipeline.stopping := by
        unfold motionTaskCommands
        rw [hmotion]
        exact ⟨rfl, rfl⟩
      dsimp only
      rw [hnext.1, hnext.2, hphase]
      cases f.pipeline.stopping with
      | true => exact ⟨rfl, rfl, rfl⟩
      | false => exact rfl
    | disable =>
      unfold Firmware.Aligned at hf ⊢
      rw [hstage] at hf
      exact hf
    | parked => exact hf
  · have hsame : SameMotion f (f.report .motion now) := ⟨rfl, rfl, rfl, id⟩
    exact hsame.aligned hf

/-- The halves are aligned in every run. -/
theorem aligned_firmware (driver : InputDriver δ ε) (env : Environment) (input : δ)
    (as : List (FirmwareAction ε)) : (firmware driver env input as).Aligned :=
  Machine.run_invariant_of_forall (fun a _ hf => hf.step a) rfl

end MotionFirmware
