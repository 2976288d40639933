import MotionFirmware.Drivers.InputHost
import MotionFirmware.Rtos.CommandBus

/-!
# Communications, and the command loop of Motion

`comms_task.c` and the part of `motion_task.c` that takes commands, with the producers of frames.
Each task is a program counter, and a step runs one critical section or one call of the kernel, so a
run is an interleaving at these points.  An interrupt runs as a whole.

The task reads frames through `drivers/uart.h`, which has one implementation on the host and one on
the target; `InputDriver` is that interface, with what every implementation guarantees of the
frames that wait.
-/

namespace MotionFirmware

/-- What a producer of frames owes Communications: nothing, or a notification, which an interrupt
gives at once and a task gives later by `runtime_input_ready`. -/
inductive Signal where
  | none
  | isr
  | owed (producer : ℕ)
  deriving DecidableEq

/-- The receive side of `drivers/uart.h` with its producers: `arrive` performs an interrupt or a
submission, and `signal` is the notification that it entails. -/
structure InputDriver (δ ε : Type) where
  waiting : δ → List (List UInt8)
  arrive : ε → δ → δ
  signal : ε → δ → Signal
  tryReadLine : δ → Except UartError (List UInt8) × δ
  rxPending : δ → Bool
  waiting_arrive : ∀ e d, ∃ frames, waiting (arrive e d) = waiting d ++ frames ∧
    (signal e d = .none → frames = [])
  tryReadLine_nil : ∀ d, waiting d = [] →
    waiting (tryReadLine d).2 = [] ∧ (tryReadLine d).1 = .error .empty
  tryReadLine_cons : ∀ d frame rest, waiting d = frame :: rest →
    waiting (tryReadLine d).2 = rest ∧
      ((tryReadLine d).1 = .ok frame ∨
        ∃ error, error ≠ UartError.empty ∧ (tryReadLine d).1 = .error error)
  rxPending_iff : ∀ d, rxPending d = true ↔ waiting d ≠ []

/-- Where Communications is: before the checkpoint and the heartbeat of its loop, at
`ulTaskNotifyTake`, behind it with the value that it returned, in the drain with the number of
frames read, before it counts a failed read, with a frame in its hand, before `uart_rx_pending`,
before it notifies itself, in `vTaskDelay`, or suspended. -/
inductive CommsAt where
  | checkpoint
  | heartbeat
  | take
  | resumed (value : ℕ)
  | count (value : ℕ)
  | drain (i : ℕ)
  | failed
  | frame (i : ℕ) (line : List UInt8)
  | pending
  | give
  | delay
  | parked

/-- Where Motion is: outside of its command loop, before it receives the next command, with a
command that it has not counted, or suspended. -/
inductive MotionAt where
  | checkpoint
  | receive (i : ℕ)
  | taken (i : ℕ) (command : MotionCommand)
  | parked

/-- The state of the command pipeline: the input driver, the tasks, the notification value of
Communications, the producers that owe a notification, and the data of the runtime. -/
structure Pipeline (δ : Type) where
  input : δ
  comms : CommsAt := .checkpoint
  motion : MotionAt := .checkpoint
  notified : ℕ := 0
  owed : ℕ → Bool := fun _ => false
  stopping : Bool := false
  tasksStarted : UInt32 := 0
  tasksParked : UInt32 := 0
  bus : CommandBus := {}
  inputNotifications : UInt32 := 0
  uartRxErrors : UInt32 := 0
  parseErrors : UInt32 := 0
  receivedByType : CommandType → UInt32 := fun _ => 0
  lastCommand : MotionCommand := ⟨.moveAbs, 0⟩

/-- `TASK_MOTION`. -/
def taskMotion : UInt32 := 0

/-- `TASK_COMMS`. -/
def taskComms : UInt32 := 2

/-- The number of frames that one iteration of Communications reads. -/
def drainLimit : ℕ := 4

/-- The number of commands that one release of Motion takes. -/
def commandLimit : ℕ := 2

section Steps

variable {δ ε : Type} (driver : InputDriver δ ε)

/-- The critical section of `runtime_checkpoint`. -/
def runtimeCheckpoint (id : UInt32) (p : Pipeline δ) : Pipeline δ :=
  { p with
    tasksStarted := p.tasksStarted ||| (1 <<< id)
    tasksParked := if p.stopping then p.tasksParked ||| (1 <<< id) else p.tasksParked }

/-- The part of the drain that follows a read: stop, count an error, or hold the frame. -/
def CommsAt.afterRead (i : ℕ) : Except UartError (List UInt8) → CommsAt
  | .error .empty => .pending
  | .error _ => .failed
  | .ok line => .frame i line

/-- The next read of the drain, or the end of its loop. -/
def CommsAt.nextRead (i : ℕ) : CommsAt := if i < drainLimit then .drain i else .pending

/-- What Communications does with a frame.  The parser always has a result. -/
def Pipeline.handleFrame (line : List UInt8) (p : Pipeline δ) : Pipeline δ :=
  match commandParse line ⟨.status, 0⟩ with
  | some (.ok, command) => { p with bus := (commandBusSend command p.bus).2 }
  | _ => { p with parseErrors := p.parseErrors + 1 }

/-- The return from `ulTaskNotifyTake`, which clears the value. -/
def Pipeline.takeNotifications (p : Pipeline δ) : Pipeline δ :=
  { p with comms := .resumed p.notified, notified := 0 }

/-- The next step of `comms_task`.  At `ulTaskNotifyTake` it is blocked while the value is zero. -/
def commsTask (p : Pipeline δ) : Pipeline δ :=
  match p.comms with
  | .checkpoint =>
    { runtimeCheckpoint taskComms p with comms := if p.stopping then .parked else .heartbeat }
  | .heartbeat => { p with comms := .take }
  | .take => if p.notified = 0 then p else p.takeNotifications
  | .resumed value =>
    { runtimeCheckpoint taskComms p with comms := if p.stopping then .parked else .count value }
  | .count value =>
    { p with
      inputNotifications := p.inputNotifications + UInt32.ofNat value
      comms := .drain 0 }
  | .drain i =>
    let read := driver.tryReadLine p.input
    { p with input := read.2, comms := .afterRead i read.1 }
  | .failed => { p with uartRxErrors := p.uartRxErrors + 1, comms := .pending }
  | .frame i line => { p.handleFrame line with comms := .nextRead (i + 1) }
  | .pending => { p with comms := if driver.rxPending p.input then .give else .checkpoint }
  | .give => { p with notified := p.notified + 1, comms := .delay }
  | .delay => { p with comms := .checkpoint }
  | .parked => p

/-- The health timeout of `ulTaskNotifyTake`, which returns whatever the value is. -/
def commsTimeout (p : Pipeline δ) : Pipeline δ :=
  match p.comms with
  | .take => p.takeNotifications
  | _ => p

/-- The next step of the command loop of `motion_task`; the execution of a command does not touch
the pipeline. -/
def motionTaskCommands (p : Pipeline δ) : Pipeline δ :=
  match p.motion with
  | .checkpoint =>
    { runtimeCheckpoint taskMotion p with motion := if p.stopping then .parked else .receive 0 }
  | .receive i =>
    if i < commandLimit then
      match commandBusReceive p.bus with
      | (none, bus) => { p with bus := bus, motion := .checkpoint }
      | (some command, bus) => { p with bus := bus, motion := .taken i command }
    else { p with motion := .checkpoint }
  | .taken i command =>
    { p with
      receivedByType := Function.update p.receivedByType command.type
        (p.receivedByType command.type + 1)
      lastCommand := command
      motion := .receive (i + 1) }
  | .parked => p

/-- What the notification of a producer does. -/
def Pipeline.notify (p : Pipeline δ) : Signal → Pipeline δ
  | .none => p
  | .isr => { p with notified := p.notified + 1 }
  | .owed producer => { p with owed := Function.update p.owed producer true }

/-- The steps of the pipeline: an interrupt or a submission, `runtime_input_ready` of a producer,
a step of a task, the health timeout, and `runtime_request_stop`. -/
inductive PipelineAction (ε : Type) where
  | arrive (e : ε)
  | inputReady (producer : ℕ)
  | comms
  | timeout
  | motion
  | requestStop

/-- The pipeline after a step. -/
def pipelineStep (a : PipelineAction ε) (p : Pipeline δ) : Pipeline δ :=
  match a with
  | .arrive e => { p.notify (driver.signal e p.input) with input := driver.arrive e p.input }
  | .inputReady producer =>
    { p with notified := p.notified + 1, owed := Function.update p.owed producer false }
  | .comms => commsTask driver p
  | .timeout => commsTimeout p
  | .motion => motionTaskCommands p
  | .requestStop => { p with stopping := true }

end Steps

/-! ### The two drivers -/

/-- What fills the queue of the host: the tick interrupt, the submission of a frame by a task, and
the end of the input. -/
inductive HostEvent where
  | tick (tickCount : UInt32)
  | submit (producer : ℕ) (line : List UInt8)
  | stop

/-- The host after an event. -/
def HostInput.arrive : HostEvent → HostInput → HostInput
  | .tick tickCount, h => (hostInputTickIsr tickCount h).1
  | .submit _ line, h => (hostInputSubmit line h).2
  | .stop, h => hostInputStop h

/-- The notification that an event of the host entails. -/
def HostInput.signal : HostEvent → HostInput → Signal
  | .tick tickCount, h => if (hostInputTickIsr tickCount h).2 then .isr else .none
  | .submit producer line, h => if (hostInputSubmit line h).1 then .owed producer else .none
  | .stop, _ => .none

/-- An event of the host accepts frames, and one that entails no notification accepts none. -/
theorem HostInput.arrive_accepts (e : HostEvent) (h : HostInput) :
    ∃ frames, h.Accepts frames (HostInput.arrive e h) ∧
      (HostInput.signal e h = .none → frames = []) := by
  cases e with
  | tick tickCount =>
    obtain ⟨frames, haccepts, hready⟩ := hostInputTickIsr_accepts tickCount h
    refine ⟨frames, haccepts, fun hsignal => ?_⟩
    cases frames with
    | nil => rfl
    | cons frame frames => simp [HostInput.signal, hready] at hsignal
  | submit producer line =>
    obtain ⟨frames, haccepts, hsubmitted⟩ := hostInputSubmit_accepts line h
    refine ⟨frames, haccepts, fun hsignal => ?_⟩
    cases frames with
    | nil => rfl
    | cons frame frames => simp [HostInput.signal, hsubmitted] at hsignal
  | stop => exact ⟨[], ⟨(List.append_nil _).symm, (UInt32.add_zero _).symm, id⟩, fun _ => rfl⟩

/-- The host. -/
def hostDriver : InputDriver HostInput HostEvent where
  waiting h := h.rxQueue.items
  arrive := HostInput.arrive
  signal := HostInput.signal
  tryReadLine := uartHostTryReadLine
  rxPending := uartHostRxPending
  waiting_arrive e h := by
    obtain ⟨frames, haccepts, hnone⟩ := HostInput.arrive_accepts e h
    exact ⟨frames, haccepts.queue, hnone⟩
  tryReadLine_nil h hnil := by
    rw [uartHostTryReadLine_nil hnil]
    exact ⟨hnil, rfl⟩
  tryReadLine_cons h frame rest hcons := by
    obtain ⟨hread, htail⟩ := uartHostTryReadLine_cons hcons
    rw [hread]
    refine ⟨htail, ?_⟩
    by_cases hlong : uartRxLineCapacity < frame.length
    · exact Or.inr ⟨.tooLong, nofun, if_pos hlong⟩
    · exact Or.inl (if_neg hlong)
  rxPending_iff h := by
    simp [uartHostRxPending]

/-- The notification that a reception of the target entails. -/
def Uart.signal (r : Reception) (u : Uart) : Signal :=
  if (usart2IrqHandler r u).notifications = u.notifications then .none else .isr

/-- `uart_try_read_line` of the target as the interface has it. -/
def uartStm32TryReadLine (u : Uart) : Except UartError (List UInt8) × Uart :=
  match uartTryReadLine u with
  | (none, u) => (.error .empty, u)
  | (some line, u) => (.ok line, u)

/-- `uart_rx_pending` of the target. -/
def uartRxPending (u : Uart) : Bool := !u.rxQueue.items.isEmpty

/-- The target. -/
def stm32Driver : InputDriver Uart Reception where
  waiting u := u.rxQueue.items
  arrive := usart2IrqHandler
  signal := Uart.signal
  tryReadLine := uartStm32TryReadLine
  rxPending := uartRxPending
  waiting_arrive r u := by
    obtain ⟨-, hqueue, -, hnotifications⟩ := usart2IrqHandler_eq r u
    obtain ⟨lines, hitems, hnone⟩ := u.deliver_notifies (r.event.bind u.assembler.offered)
    refine ⟨lines, by rw [hqueue, hitems], fun hsignal => hnone ?_⟩
    rw [← hnotifications]
    by_contra hnotified
    rw [Uart.signal, if_neg hnotified] at hsignal
    exact absurd hsignal nofun
  tryReadLine_nil u hnil := by
    have hhead : u.rxQueue.receive.1 = none := by rw [Fifo.receive_fst, hnil, List.head?_nil]
    have htail : u.rxQueue.receive.2.items = [] := by
      rw [Fifo.receive_items, hnil, List.tail_nil]
    unfold uartStm32TryReadLine uartTryReadLine
    rw [hhead]
    exact ⟨htail, rfl⟩
  tryReadLine_cons u line rest hcons := by
    have hhead : u.rxQueue.receive.1 = some line := by
      rw [Fifo.receive_fst, hcons, List.head?_cons]
    have htail : u.rxQueue.receive.2.items = rest := by
      rw [Fifo.receive_items, hcons, List.tail_cons]
    unfold uartStm32TryReadLine uartTryReadLine
    rw [hhead]
    exact ⟨htail, Or.inl rfl⟩
  rxPending_iff u := by
    simp [uartRxPending]

end MotionFirmware
