import MotionFirmware.Drivers.UartStm32

/-!
# The frame source of the host

`input_host.c` and the receive side of `uart_host.c`.  A script of frames, ordered in time, is
released by the tick interrupt, and tasks can submit frames of their own; both go through one queue,
from which `uart_try_read_line` takes them.  Every released frame is accepted or dropped.
-/

namespace MotionFirmware

/-- `HOST_INPUT_QUEUE_CAPACITY`. -/
def hostInputQueueCapacity : ℕ := 16

/-- `HOST_SCRIPT_CAPACITY`. -/
def hostScriptCapacity : ℕ := 32

/-- `portTICK_PERIOD_MS`, at the `configTICK_RATE_HZ` of 100. -/
def portTickPeriodMs : UInt32 := 10

/-- `host_input_event_t`. -/
structure HostInputEvent where
  atMs : UInt32
  line : List UInt8
  deriving DecidableEq

/-- The static state of `input_host.c`; `script` holds the events from `next_event` on. -/
structure HostInput where
  script : List HostInputEvent
  rxQueue : Fifo (List UInt8) hostInputQueueCapacity := .empty
  active : Bool
  released : UInt32 := 0
  accepted : UInt32 := 0
  dropped : UInt32 := 0
  irqNotifications : UInt32 := 0

/-- The checks that `host_input_init` makes of each event and of the one before it. -/
def validEvents : List HostInputEvent → Bool
  | [] => true
  | [e] => decide (e.line.length ≤ uartRxLineCapacity) && e.atMs % portTickPeriodMs == 0
  | e :: e' :: events =>
    decide (e.line.length ≤ uartRxLineCapacity) && e.atMs % portTickPeriodMs == 0 &&
      decide (e.atMs ≤ e'.atMs) && validEvents (e' :: events)

/-- `host_input_init`, after `uart_init`; the state, if it succeeds. -/
def hostInputInit (events : List HostInputEvent) : Option HostInput :=
  if hostScriptCapacity < events.length then none
  else if validEvents events then some { script := events, active := true }
  else none

/-- The loop of `host_input_tick_isr` with the budget that is left, and whether a frame has been
delivered. -/
def HostInput.releaseDue (now : UInt32) : (budget : ℕ) → HostInput → Bool → HostInput × Bool
  | 0, h, delivered => (h, delivered)
  | budget + 1, h, delivered =>
    match h.script with
    | [] => (h, delivered)
    | e :: script =>
      if now < e.atMs then (h, delivered)
      else
        let sent := h.rxQueue.send e.line
        if sent.1 then
          releaseDue now budget { h with
            released := h.released + 1
            rxQueue := sent.2
            accepted := h.accepted + 1
            script := script } true
        else
          releaseDue now budget { h with
            released := h.released + 1
            dropped := h.dropped + 1
            script := script } delivered

/-- `host_input_tick_isr` at a tick count, and whether it calls `input_ready`. -/
def hostInputTickIsr (tickCount : UInt32) (h : HostInput) : HostInput × Bool :=
  if !h.active then (h, false)
  else
    let due := h.releaseDue (tickCount * portTickPeriodMs) hostInputQueueCapacity false
    if due.2 then ({ due.1 with irqNotifications := due.1.irqNotifications + 1 }, true)
    else (due.1, false)

/-- `host_input_submit`. -/
def hostInputSubmit (line : List UInt8) (h : HostInput) : Bool × HostInput :=
  if uartRxLineCapacity < line.length then (false, h)
  else if h.active then
    let sent := h.rxQueue.send line
    if sent.1 then
      (true, { h with
        released := h.released + 1, rxQueue := sent.2, accepted := h.accepted + 1 })
    else (false, { h with released := h.released + 1, dropped := h.dropped + 1 })
  else (false, h)

/-- `host_input_stop`. -/
def hostInputStop (h : HostInput) : HostInput := { h with active := false }

/-- `uart_result_t`, of a read that fails. -/
inductive UartError where
  | empty
  | notInitialized
  | invalidArgument
  | tooLong
  | ioError
  deriving DecidableEq

/-- `uart_try_read_line` of the host, after `uart_init` and `uart_host_bind_rx`. -/
def uartHostTryReadLine (h : HostInput) : Except UartError (List UInt8) × HostInput :=
  match h.rxQueue.receive with
  | (none, _) => (.error .empty, h)
  | (some frame, queue) =>
    (if uartRxLineCapacity < frame.length then .error .tooLong else .ok frame,
      { h with rxQueue := queue })

/-- `uart_rx_pending` of the host. -/
def uartHostRxPending (h : HostInput) : Bool := !h.rxQueue.items.isEmpty

/-! ### What the producers do -/

/-- Frames have been accepted, and everything that was released has been accounted for. -/
structure HostInput.Accepts (h : HostInput) (frames : List (List UInt8)) (h' : HostInput) :
    Prop where
  queue : h'.rxQueue.items = h.rxQueue.items ++ frames
  accepted : h'.accepted = h.accepted + UInt32.ofNat frames.length
  balance : h.released = h.accepted + h.dropped → h'.released = h'.accepted + h'.dropped

namespace HostInput.Accepts

variable {h h' h'' : HostInput} {frames frames' : List (List UInt8)}

lemma refl (h : HostInput) : h.Accepts [] h :=
  ⟨(List.append_nil _).symm, (UInt32.add_zero _).symm, id⟩

lemma trans (hfirst : h.Accepts frames h') (hnext : h'.Accepts frames' h'') :
    h.Accepts (frames ++ frames') h'' := by
  refine ⟨?_, ?_, fun hbalance => hnext.balance (hfirst.balance hbalance)⟩
  · rw [hnext.queue, hfirst.queue, List.append_assoc]
  · rw [hnext.accepted, hfirst.accepted, List.length_append, UInt32.ofNat_add, UInt32.add_assoc]

/-- A frame for which there is space is accepted. -/
lemma accept {line : List UInt8} (script : List HostInputEvent)
    (hspace : h.rxQueue.items.length < hostInputQueueCapacity) :
    h.Accepts [line] { h with
      released := h.released + 1
      rxQueue := (h.rxQueue.send line).2
      accepted := h.accepted + 1
      script := script } := by
  refine ⟨(Fifo.send_items _ _).trans (if_pos hspace), rfl, fun hbalance => ?_⟩
  change h.released + 1 = h.accepted + 1 + h.dropped
  rw [hbalance, UInt32.add_assoc, UInt32.add_comm h.dropped, ← UInt32.add_assoc]

/-- Any other frame is dropped. -/
lemma drop (script : List HostInputEvent) :
    h.Accepts [] { h with
      released := h.released + 1
      dropped := h.dropped + 1
      script := script } := by
  refine ⟨(List.append_nil _).symm, (UInt32.add_zero _).symm, fun hbalance => ?_⟩
  change h.released + 1 = h.accepted + (h.dropped + 1)
  rw [hbalance, UInt32.add_assoc]

end HostInput.Accepts

/-- The loop of the tick interrupt has delivered a frame exactly when it has accepted one. -/
lemma releaseDue_accepts (now : UInt32) (budget : ℕ) (h : HostInput) (delivered : Bool) :
    ∃ frames, h.Accepts frames (h.releaseDue now budget delivered).1 ∧
      (h.releaseDue now budget delivered).2 = (delivered || !frames.isEmpty) := by
  induction budget generalizing h delivered with
  | zero => exact ⟨[], .refl h, by simp [HostInput.releaseDue]⟩
  | succ budget ih =>
    unfold HostInput.releaseDue
    cases hscript : h.script with
    | nil => exact ⟨[], .refl h, by simp⟩
    | cons e script =>
      dsimp only
      by_cases hdue : now < e.atMs
      · rw [if_pos hdue]
        exact ⟨[], .refl h, by simp⟩
      rw [if_neg hdue, Fifo.send_fst]
      by_cases hspace : h.rxQueue.items.length < hostInputQueueCapacity
      · rw [if_pos (decide_eq_true hspace)]
        obtain ⟨frames, haccepts, hdelivered⟩ := ih _ true
        exact ⟨e.line :: frames, (HostInput.Accepts.accept script hspace).trans haccepts,
          by rw [hdelivered]; simp⟩
      · rw [if_neg (by simpa using hspace)]
        obtain ⟨frames, haccepts, hdelivered⟩ := ih _ delivered
        exact ⟨frames, (HostInput.Accepts.drop script).trans haccepts, hdelivered⟩

/-- The tick interrupt calls `input_ready` exactly when it has accepted a frame. -/
theorem hostInputTickIsr_accepts (tickCount : UInt32) (h : HostInput) :
    ∃ frames, h.Accepts frames (hostInputTickIsr tickCount h).1 ∧
      (hostInputTickIsr tickCount h).2 = !frames.isEmpty := by
  unfold hostInputTickIsr
  cases hactive : h.active with
  | false => exact ⟨[], .refl h, rfl⟩
  | true =>
    obtain ⟨frames, haccepts, hdelivered⟩ :=
      releaseDue_accepts (tickCount * portTickPeriodMs) hostInputQueueCapacity h false
    rw [Bool.false_or] at hdelivered
    refine ⟨frames, ?_, ?_⟩
    · cases hdue : (h.releaseDue (tickCount * portTickPeriodMs) hostInputQueueCapacity false).2 <;>
        simpa [hdue] using ⟨haccepts.queue, haccepts.accepted, haccepts.balance⟩
    · rw [← hdelivered]
      cases hdue : (h.releaseDue (tickCount * portTickPeriodMs) hostInputQueueCapacity false).2 <;>
        simp [hdue]

/-- A submission succeeds exactly when a frame is accepted. -/
theorem hostInputSubmit_accepts (line : List UInt8) (h : HostInput) :
    ∃ frames, h.Accepts frames (hostInputSubmit line h).2 ∧
      (hostInputSubmit line h).1 = !frames.isEmpty := by
  unfold hostInputSubmit
  by_cases hlong : uartRxLineCapacity < line.length
  · rw [if_pos hlong]
    exact ⟨[], .refl h, rfl⟩
  rw [if_neg hlong]
  cases hactive : h.active with
  | false => exact ⟨[], .refl h, rfl⟩
  | true =>
    rw [if_pos rfl]
    dsimp only
    rw [Fifo.send_fst]
    by_cases hspace : h.rxQueue.items.length < hostInputQueueCapacity
    · rw [if_pos (decide_eq_true hspace)]
      exact ⟨[line], hactive ▸ .accept h.script hspace, rfl⟩
    · rw [if_neg (by simpa using hspace)]
      exact ⟨[], hactive ▸ .drop h.script, rfl⟩

variable {h : HostInput}

/-- Reading an empty queue changes nothing. -/
lemma uartHostTryReadLine_nil (hnil : h.rxQueue.items = []) :
    uartHostTryReadLine h = (.error .empty, h) := by
  have hhead : h.rxQueue.receive.1 = none := by rw [Fifo.receive_fst, hnil, List.head?_nil]
  unfold uartHostTryReadLine
  rcases hreceive : h.rxQueue.receive with ⟨first, queue⟩
  rw [hreceive] at hhead
  obtain rfl : first = none := hhead
  rfl

/-- Otherwise the oldest frame is taken out, and returned unless it is too long. -/
lemma uartHostTryReadLine_cons {frame : List UInt8} {rest : List (List UInt8)}
    (hcons : h.rxQueue.items = frame :: rest) :
    uartHostTryReadLine h =
        (if uartRxLineCapacity < frame.length then .error .tooLong else .ok frame,
          { h with rxQueue := h.rxQueue.receive.2 }) ∧
      h.rxQueue.receive.2.items = rest := by
  have hhead : h.rxQueue.receive.1 = some frame := by
    rw [Fifo.receive_fst, hcons, List.head?_cons]
  have htail : h.rxQueue.receive.2.items = rest := by
    rw [Fifo.receive_items, hcons, List.tail_cons]
  refine ⟨?_, htail⟩
  unfold uartHostTryReadLine
  rcases hreceive : h.rxQueue.receive with ⟨first, queue⟩
  rw [hreceive] at hhead
  obtain rfl : first = some frame := hhead
  rfl

end MotionFirmware
