import Mathlib.Data.List.ReduceOption
import MotionFirmware.Foundation.Fifo
import MotionFirmware.Foundation.Machine
import MotionFirmware.Protocol.Command

/-!
# The receiver of the target

The receive part of `platform/stm32/uart.c`.  The interrupt handler assembles lines from single
receptions with a partial line and two flags, and offers each line to the queue that the
Communications task reads.

`segments` cuts the sequence of receptions as the framing is meant: at every `CR`, and at every `LF`
that does not directly follow a `CR`.  The handler agrees with it except in one case.  After a `CR`
it swallows the next `LF`, also when an error has been received in between; but that `LF` was the
terminator of the segment with the error, so the handler goes on discarding and loses the line after
it.
-/

namespace MotionFirmware

/-- `UART_RX_LINE_CAPACITY`. -/
def uartRxLineCapacity : ℕ := 64

/-- `RX_FRAMES`. -/
def rxFrames : ℕ := 16

/-! ### The interrupt handler -/

/-- The error flags `ORE`, `NE`, `FE` and `PE` of the status register. -/
def usartSrErrors : UInt32 := 8 ||| 4 ||| 2 ||| 1

/-- `USART_SR_RXNE`. -/
def usartSrRxne : UInt32 := 32

/-- What the handler reads: the status register and then the data register. -/
structure Reception where
  status : UInt32
  data : UInt8
  deriving DecidableEq

/-- The receive part of the static state of `uart.c`, with the number of calls of
`runtime_input_ready_from_isr`. -/
structure Uart where
  rxQueue : Fifo (List UInt8) rxFrames := .empty
  partialLine : List UInt8 := []
  skipLf : Bool := false
  discard : Bool := false
  rxDrops : UInt32 := 0
  rxErrors : UInt32 := 0
  notifications : ℕ := 0

/-- The end of a line: it is offered to the queue unless it is to be discarded. -/
def Uart.offer (u : Uart) : Uart :=
  if !u.discard then
    let sent := u.rxQueue.send u.partialLine
    if sent.1 then { u with rxQueue := sent.2, notifications := u.notifications + 1 }
    else { u with rxDrops := u.rxDrops + 1 }
  else u

/-- `USART2_IRQHandler`. -/
def usart2IrqHandler (r : Reception) (u : Uart) : Uart :=
  if r.status &&& (usartSrRxne ||| usartSrErrors) = 0 then u
  else if r.status &&& usartSrErrors ≠ 0 then
    { u with rxErrors := u.rxErrors + 1, partialLine := [], discard := true }
  else if r.data = ascii '\n' ∧ u.skipLf then { u with skipLf := false }
  else
    let u := { u with skipLf := r.data == ascii '\r' }
    if r.data = ascii '\r' ∨ r.data = ascii '\n' then
      { u.offer with partialLine := [], discard := false }
    else if !u.discard ∧ u.partialLine.length < uartRxLineCapacity then
      { u with partialLine := u.partialLine ++ [r.data] }
    else u

/-- `uart_try_read_line`, after `uart_init`. -/
def uartTryReadLine (u : Uart) : Option (List UInt8) × Uart :=
  (u.rxQueue.receive.1, { u with rxQueue := u.rxQueue.receive.2 })

/-! ### Receive events and the framing -/

/-- A byte without an error, or an error. -/
inductive RxEvent where
  | byte (b : UInt8)
  | error
  deriving DecidableEq

/-- The event that a reception is; none, when no flag is set. -/
def Reception.event (r : Reception) : Option RxEvent :=
  if r.status &&& (usartSrRxne ||| usartSrErrors) = 0 then none
  else if r.status &&& usartSrErrors ≠ 0 then some .error
  else some (.byte r.data)

/-- A carriage return. -/
def RxEvent.cr : RxEvent := .byte (ascii '\r')

/-- A line feed. -/
def RxEvent.lf : RxEvent := .byte (ascii '\n')

/-- A byte that belongs to a line. -/
def RxEvent.plain (e : RxEvent) : Bool := e != .error && e != .cr && e != .lf

/-- The byte of an event. -/
def RxEvent.toByte : RxEvent → Option UInt8
  | .byte b => some b
  | .error => none

/-- The completed segments of a sequence of events, given the event before it and the segment that
is open.  An `LF` directly after a `CR` belongs to that `CR`. -/
def segments : (previous : Option RxEvent) → (current : List RxEvent) → List RxEvent →
    List (List RxEvent)
  | _, _, [] => []
  | previous, current, e :: es =>
    if e = .cr ∨ e = .lf ∧ previous ≠ some .cr then current :: segments (some e) [] es
    else if e = .lf then segments (some e) current es
    else segments (some e) (current ++ [e]) es

/-- The frame of a segment: none if it contains an error, and otherwise its first bytes. -/
def frameOf (segment : List RxEvent) : Option (List UInt8) :=
  if .error ∈ segment then none
  else some ((segment.filterMap RxEvent.toByte).take uartRxLineCapacity)

/-- The frames of a sequence of events. -/
def framesOf (es : List RxEvent) : List (List UInt8) :=
  (segments none [] es).filterMap frameOf

/-- The events contain a line without an error that is terminated, directly after an `LF` which ends
errors that follow a `CR`. -/
def Suppresses (es : List RxEvent) : Prop :=
  ∃ before errors line terminator after,
    es = before ++ .cr :: (errors ++ .lf :: (line ++ terminator :: after)) ∧ errors ≠ [] ∧
      (∀ e ∈ errors, e = .error) ∧ (∀ e ∈ line, e.plain = true) ∧
      (terminator = .cr ∨ terminator = .lf)

/-! ### Assembling lines -/

/-- What the handler keeps between two receptions to assemble a line. -/
structure Assembler where
  line : List UInt8 := []
  skipLf : Bool := false
  discard : Bool := false
  deriving DecidableEq

/-- The assembly state of the receiver. -/
def Uart.assembler (u : Uart) : Assembler := ⟨u.partialLine, u.skipLf, u.discard⟩

/-- The assembly state after an event. -/
def Assembler.next (a : Assembler) : RxEvent → Assembler
  | .error => { a with line := [], discard := true }
  | .byte b =>
    if b = ascii '\n' ∧ a.skipLf then { a with skipLf := false }
    else if b = ascii '\r' ∨ b = ascii '\n' then { skipLf := b == ascii '\r' }
    else if !a.discard ∧ a.line.length < uartRxLineCapacity then
      { a with line := a.line ++ [b], skipLf := false }
    else { a with skipLf := false }

/-- The line that an event completes and that is offered to the queue. -/
def Assembler.offered (a : Assembler) : RxEvent → Option (List UInt8)
  | .error => none
  | .byte b =>
    if b = ascii '\n' ∧ a.skipLf then none
    else if (b = ascii '\r' ∨ b = ascii '\n') ∧ !a.discard then some a.line
    else none

/-- The queue and the counters after a line has been offered, or not. -/
def Uart.deliver (u : Uart) : Option (List UInt8) → Uart
  | none => u
  | some line =>
    if u.rxQueue.items.length < rxFrames then
      { u with rxQueue := (u.rxQueue.send line).2, notifications := u.notifications + 1 }
    else { u with rxDrops := u.rxDrops + 1 }

/-- **Handler.**  A reception advances the assembly, and delivers the line that it completes. -/
theorem usart2IrqHandler_eq (r : Reception) (u : Uart) :
    (usart2IrqHandler r u).assembler = r.event.elim u.assembler u.assembler.next ∧
      (usart2IrqHandler r u).rxQueue = (u.deliver (r.event.bind u.assembler.offered)).rxQueue ∧
      (usart2IrqHandler r u).rxDrops = (u.deliver (r.event.bind u.assembler.offered)).rxDrops ∧
      (usart2IrqHandler r u).notifications =
        (u.deliver (r.event.bind u.assembler.offered)).notifications := by
  unfold usart2IrqHandler Reception.event
  by_cases hnone : r.status &&& (usartSrRxne ||| usartSrErrors) = 0
  · rw [if_pos hnone, if_pos hnone]
    exact ⟨rfl, rfl, rfl, rfl⟩
  rw [if_neg hnone, if_neg hnone]
  by_cases herror : r.status &&& usartSrErrors ≠ 0
  · rw [if_pos herror, if_pos herror]
    exact ⟨rfl, rfl, rfl, rfl⟩
  rw [if_neg herror, if_neg herror, Option.elim_some, Option.bind_some]
  obtain ⟨queue, line, skipLf, discard, drops, errors, notifications⟩ := u
  dsimp only [Uart.assembler, Assembler.next, Assembler.offered]
  by_cases hskip : r.data = ascii '\n' ∧ skipLf = true
  · rw [if_pos hskip, if_pos hskip, if_pos hskip]
    exact ⟨rfl, rfl, rfl, rfl⟩
  rw [if_neg hskip, if_neg hskip, if_neg hskip]
  by_cases hend : r.data = ascii '\r' ∨ r.data = ascii '\n'
  · rw [if_pos hend, if_pos hend]
    cases discard with
    | true => simp [hend, Uart.offer, Uart.deliver]
    | false =>
      by_cases hspace : queue.items.length < rxFrames <;>
        simp [hend, Uart.offer, Uart.deliver, hspace]
  · have hplain : (r.data == ascii '\r') = false := by
      simpa using fun h => hend (Or.inl h)
    have hnone : ¬ ((r.data = ascii '\r' ∨ r.data = ascii '\n') ∧ (!discard) = true) :=
      fun h => hend h.1
    rw [if_neg hend, if_neg hend, if_neg hnone, hplain]
    split_ifs <;> exact ⟨rfl, rfl, rfl, rfl⟩

/-- A line that is enqueued is notified. -/
lemma Uart.deliver_notifies (u : Uart) (line : Option (List UInt8)) :
    ∃ lines, (u.deliver line).rxQueue.items = u.rxQueue.items ++ lines ∧
      ((u.deliver line).notifications = u.notifications → lines = []) := by
  cases line with
  | none => exact ⟨[], (List.append_nil _).symm, fun _ => rfl⟩
  | some line =>
    unfold Uart.deliver
    dsimp only
    by_cases hspace : u.rxQueue.items.length < rxFrames
    · rw [if_pos hspace]
      refine ⟨[line], (Fifo.send_items _ _).trans (if_pos hspace), fun hsame => ?_⟩
      exact absurd hsame (Nat.succ_ne_self _)
    · rw [if_neg hspace]
      exact ⟨[], (List.append_nil _).symm, fun _ => rfl⟩

/-! ### The assembler and the framing -/

/-- The lines that are offered for a sequence of events. -/
def offeredLines (a : Assembler) : List RxEvent → List (List UInt8)
  | [] => []
  | e :: es => (a.offered e).toList ++ offeredLines (a.next e) es

/-- What the last events mean for the handler: a `CR`; a `CR` and errors after it; these with an
`LF` that has been swallowed, and bytes of the line after it; or anything else. -/
inductive Recent where
  | other
  | cr
  | crError
  | lost
  deriving DecidableEq

/-- The meaning of the last events after one more. -/
def Recent.next (t : Recent) (e : RxEvent) : Recent :=
  if e = .cr then .cr
  else if e = .error then if t = .cr ∨ t = .crError then .crError else .other
  else if e = .lf then if t = .crError then .lost else .other
  else if t = .lost then .lost else .other

/-- The assembler against the framing: the event before and the open segment. -/
structure Synchronized (t : Recent) (a : Assembler) (previous : Option RxEvent)
    (current : List RxEvent) : Prop where
  skipLf : a.skipLf = true ↔ t = .cr ∨ t = .crError
  previous : previous = some .cr ↔ t = .cr
  discard : a.discard = true ↔ .error ∈ current ∨ t = .lost
  line : a.discard = false → a.line = (current.filterMap RxEvent.toByte).take uartRxLineCapacity
  afterCr : t = .cr → current = []
  afterCrError : t = .crError → .error ∈ current
  afterLost : t = .lost → .error ∉ current

/-- The number of lines that are lost. -/
def lostLines (t : Recent) : List RxEvent → ℕ
  | [] => 0
  | e :: es => (if t = .lost ∧ (e = .cr ∨ e = .lf) then 1 else 0) + lostLines (t.next e) es

variable {t : Recent} {a : Assembler} {previous : Option RxEvent} {current es : List RxEvent}
  {e : RxEvent}

lemma Recent.next_cr (t : Recent) : t.next .cr = .cr := rfl

lemma Recent.next_error (t : Recent) :
    t.next .error = if t = .cr ∨ t = .crError then .crError else .other := rfl

lemma Recent.next_lf (t : Recent) : t.next .lf = if t = .crError then .lost else .other := by
  have hcr : RxEvent.lf ≠ .cr := by decide
  have herror : RxEvent.lf ≠ .error := nofun
  rw [Recent.next, if_neg hcr, if_neg herror, if_pos rfl]

lemma Recent.next_plain (t : Recent) (he : e.plain = true) :
    t.next e = if t = .lost then .lost else .other := by
  simp only [RxEvent.plain, Bool.and_eq_true, bne_iff_ne] at he
  rw [Recent.next, if_neg he.1.2, if_neg he.1.1, if_neg he.2]

/-- An error opens or continues a run of errors, and spoils the segment. -/
lemma Synchronized.error (h : Synchronized t a previous current) :
    Synchronized (t.next .error) (a.next .error) (some .error) (current ++ [.error]) := by
  have hskip : (a.next .error).skipLf = a.skipLf := rfl
  rw [Recent.next_error]
  constructor
  · rw [hskip, h.skipLf]
    split_ifs with ht <;> simp [ht]
  · split_ifs <;> simp [RxEvent.cr]
  · simp [Assembler.next]
  · exact fun hfalse => absurd hfalse nofun
  · split_ifs <;> exact nofun
  · exact fun _ => by simp
  · split_ifs <;> exact nofun

/-- An `LF` directly after a `CR` belongs to it. -/
lemma Synchronized.lf_of_cr (h : Synchronized .cr a previous current) :
    Synchronized .other (a.next .lf) (some .lf) current := by
  have hskip : a.skipLf = true := h.skipLf.mpr (Or.inl rfl)
  have hnext : a.next .lf = { a with skipLf := false } := by
    simp [Assembler.next, RxEvent.lf, hskip]
  have hdiscard : a.discard = true ↔ .error ∈ current := by simpa using h.discard
  rw [hnext]
  exact ⟨by simp, by simp [RxEvent.lf, RxEvent.cr, ascii], by simpa using hdiscard, h.line, nofun,
    nofun, nofun⟩

/-- An `LF` after a `CR` and errors ends the segment with the errors, but the handler has swallowed
it and goes on discarding. -/
lemma Synchronized.lf_of_crError (h : Synchronized .crError a previous current) :
    Synchronized .lost (a.next .lf) (some .lf) [] := by
  have hskip : a.skipLf = true := h.skipLf.mpr (Or.inr rfl)
  have hnext : a.next .lf = { a with skipLf := false } := by
    simp [Assembler.next, RxEvent.lf, hskip]
  have hdiscard : a.discard = true := h.discard.mpr (Or.inl (h.afterCrError rfl))
  rw [hnext]
  exact ⟨by simp, by simp [RxEvent.lf, RxEvent.cr, ascii], by simpa using hdiscard,
    fun hfalse => absurd (hdiscard.symm.trans hfalse) nofun, nofun, nofun, by simp⟩

/-- A `CR` ends a segment. -/
lemma synchronized_cr (a : Assembler) : Synchronized .cr (a.next .cr) (some .cr) [] := by
  have hnext : a.next .cr = { skipLf := true } := by
    simp [Assembler.next, RxEvent.cr, ascii]
  rw [hnext]
  exact ⟨by simp, by simp, by simp, fun _ => by simp, fun _ => rfl, nofun, nofun⟩

/-- An `LF` that is not swallowed ends a segment. -/
lemma synchronized_lf (hskip : a.skipLf = false) :
    Synchronized .other (a.next .lf) (some .lf) [] := by
  have hnext : a.next .lf = {} := by
    simp [Assembler.next, RxEvent.lf, ascii, hskip]
  rw [hnext]
  exact ⟨by simp, by simp [RxEvent.lf, RxEvent.cr, ascii], by simp, fun _ => by simp, nofun, nofun,
    nofun⟩

/-- The bytes of an open line, up to the capacity, with one more. -/
lemma take_append_byte (l : List UInt8) (b : UInt8) (n : ℕ) :
    (l ++ [b]).take n = if (l.take n).length < n then l.take n ++ [b] else l.take n := by
  rw [List.length_take]
  split_ifs with h
  · have hlt : l.length < n := by omega
    have hle : (l ++ [b]).length ≤ n := by
      rw [List.length_append, List.length_singleton]
      omega
    rw [List.take_of_length_le hle, List.take_of_length_le hlt.le]
  · rw [List.take_append_of_le_length (by omega)]

/-- A byte extends the open line. -/
lemma Synchronized.plain (h : Synchronized t a previous current) (he : e.plain = true) :
    Synchronized (t.next e) (a.next e) (some e) (current ++ [e]) := by
  obtain ⟨b, rfl⟩ : ∃ b, e = .byte b := by
    cases e with
    | byte b => exact ⟨b, rfl⟩
    | error => exact absurd he nofun
  have hb : b ≠ ascii '\r' ∧ b ≠ ascii '\n' := by
    simpa [RxEvent.plain, RxEvent.cr, RxEvent.lf] using he
  have hnext : a.next (.byte b) = { a with
      line := if !a.discard ∧ a.line.length < uartRxLineCapacity then a.line ++ [b] else a.line
      skipLf := false } := by
    simp only [Assembler.next, hb.1, hb.2, false_and, if_false, or_self]
    split_ifs <;> rfl
  have hnot : RxEvent.byte b ≠ .cr := by simpa [RxEvent.cr] using hb.1
  rw [hnext, Recent.next_plain t he]
  constructor
  · split_ifs <;> simp
  · rw [Option.some.injEq]
    split_ifs <;> simp [hnot]
  · change a.discard = true ↔ _
    rw [h.discard]
    split_ifs with ht <;> simp [ht]
  · intro hdiscard
    have hdiscard' : a.discard = false := hdiscard
    have hline := h.line hdiscard'
    have hbyte : [RxEvent.byte b].filterMap RxEvent.toByte = [b] := rfl
    rw [List.filterMap_append, hbyte, take_append_byte, ← hline]
    simp [hdiscard']
  · split_ifs <;> exact nofun
  · split_ifs <;> exact nofun
  · split_ifs with ht
    · exact fun _ => by simpa using h.afterLost ht
    · exact nofun

/-- A segment that ends is offered as its frame, unless the line is one that is lost. -/
lemma Synchronized.offered (h : Synchronized t a previous current) (he : e = .cr ∨ e = .lf)
    (hskip : e = .lf → a.skipLf = false) :
    (t ≠ .lost ∧ a.offered e = frameOf current) ∨
      (t = .lost ∧ a.offered e = none ∧ ∃ frame, frameOf current = some frame) := by
  have hoffered : a.offered e = if a.discard then none else some a.line := by
    rcases he with rfl | rfl
    · cases hd : a.discard <;> simp [Assembler.offered, RxEvent.cr, ascii, hd]
    · cases hd : a.discard <;> simp [Assembler.offered, RxEvent.lf, hskip rfl, hd]
  rw [hoffered]
  by_cases ht : t = .lost
  · refine Or.inr ⟨ht, if_pos (h.discard.mpr (Or.inr ht)), _, if_neg (h.afterLost ht)⟩
  · have hdiscard : a.discard = true ↔ .error ∈ current := by simpa [ht] using h.discard
    refine Or.inl ⟨ht, ?_⟩
    unfold frameOf
    by_cases herror : .error ∈ current
    · rw [if_pos herror, if_pos (hdiscard.mpr herror)]
    · have hfalse : a.discard = false := by simpa using mt hdiscard.mp herror
      rw [if_neg herror, hfalse, h.line hfalse]
      rfl

/-- A terminator that is not swallowed ends the line and the segment together. -/
lemma Synchronized.terminated {l : List (List RxEvent)} (h : Synchronized t a previous current)
    (he : e = .cr ∨ e = .lf) (hskip : e = .lf → a.skipLf = false)
    (hsub : (offeredLines (a.next e) es).Sublist (l.filterMap frameOf))
    (hlen : (offeredLines (a.next e) es).length + lostLines (t.next e) es =
      (l.filterMap frameOf).length) :
    (offeredLines a (e :: es)).Sublist ((current :: l).filterMap frameOf) ∧
      (offeredLines a (e :: es)).length + lostLines t (e :: es) =
        ((current :: l).filterMap frameOf).length := by
  rw [offeredLines, lostLines]
  rcases h.offered he hskip with ⟨hlost, hoffered⟩ | ⟨hlost, hoffered, frame, hframe⟩
  · rw [hoffered, if_neg fun hboth => hlost hboth.1]
    cases hf : frameOf current with
    | none =>
      rw [List.filterMap_cons_none hf]
      exact ⟨hsub, by simpa using hlen⟩
    | some frame =>
      rw [List.filterMap_cons_some hf]
      refine ⟨hsub.cons_cons frame, ?_⟩
      simp only [Option.toList_some, List.singleton_append, List.length_cons]
      omega
  · rw [hoffered, if_pos ⟨hlost, he⟩, List.filterMap_cons_some hframe]
    refine ⟨hsub.cons frame, ?_⟩
    simp only [Option.toList_none, List.nil_append, List.length_cons]
    omega

/-- An `LF` that is swallowed ends no line. -/
lemma offered_swallowed (hskip : a.skipLf = true) : a.offered .lf = none := by
  simp [Assembler.offered, RxEvent.lf, hskip]

/-- An event that is neither `CR` nor `LF` ends no line. -/
lemma offered_of_inner (hcr : e ≠ .cr) (hlf : e ≠ .lf) : a.offered e = none := by
  cases e with
  | error => rfl
  | byte b =>
    have hb : b ≠ ascii '\r' ∧ b ≠ ascii '\n' := by
      simpa [RxEvent.cr, RxEvent.lf] using And.intro hcr hlf
    simp [Assembler.offered, hb.1, hb.2]

/-- An event that is neither `CR` nor `LF` extends the open segment. -/
lemma Synchronized.inner (h : Synchronized t a previous current) (hcr : e ≠ .cr) (hlf : e ≠ .lf) :
    Synchronized (t.next e) (a.next e) (some e) (current ++ [e]) := by
  by_cases herror : e = .error
  · exact herror ▸ h.error
  · exact h.plain (by simp [RxEvent.plain, hcr, hlf, herror])

/-- **Lockstep.**  The lines that are offered are those of the framing without the lost ones. -/
theorem offeredLines_sublist (h : Synchronized t a previous current) :
    (offeredLines a es).Sublist ((segments previous current es).filterMap frameOf) ∧
      (offeredLines a es).length + lostLines t es =
        ((segments previous current es).filterMap frameOf).length := by
  induction es generalizing t a previous current with
  | nil => exact ⟨List.Sublist.refl _, rfl⟩
  | cons e es ih =>
    by_cases hcr : e = .cr
    · subst hcr
      obtain ⟨hsub, hlen⟩ := ih (synchronized_cr a)
      rw [← Recent.next_cr t] at hlen
      rw [segments, if_pos (Or.inl rfl)]
      exact h.terminated (Or.inl rfl) nofun hsub hlen
    by_cases hlf : e = .lf
    · subst hlf
      by_cases hafter : previous = some .cr
      · -- the `CR` before it has ended the segment
        obtain rfl := h.previous.mp hafter
        have hsegments : segments previous current (.lf :: es) =
            segments (some .lf) current es := by
          rw [segments, if_neg (by simp [hcr, hafter]), if_pos rfl]
        have hnone : a.offered .lf = none := offered_swallowed (h.skipLf.mpr (Or.inl rfl))
        rw [hsegments, offeredLines, lostLines, hnone, if_neg (by simp), Recent.next_lf]
        simpa using ih h.lf_of_cr
      · have hsegments : segments previous current (.lf :: es) =
            current :: segments (some .lf) [] es := by
          rw [segments, if_pos (Or.inr ⟨rfl, hafter⟩)]
        rw [hsegments]
        by_cases ht : t = .crError
        · -- the segment with the error ends, but the `LF` is swallowed
          subst ht
          have hnone : a.offered .lf = none := offered_swallowed (h.skipLf.mpr (Or.inr rfl))
          have hframe : frameOf current = none := if_pos (h.afterCrError rfl)
          rw [offeredLines, lostLines, hnone, if_neg (by simp), Recent.next_lf, if_pos rfl,
            List.filterMap_cons_none hframe]
          simpa using ih h.lf_of_crError
        · have htcr : t ≠ .cr := fun htcr => hafter (h.previous.mpr htcr)
          have hskip : a.skipLf = false := by
            simpa [ht, htcr] using h.skipLf
          have hnext : t.next .lf = .other := (Recent.next_lf t).trans (if_neg ht)
          obtain ⟨hsub, hlen⟩ := ih (synchronized_lf hskip)
          rw [← hnext] at hlen
          exact h.terminated (Or.inr rfl) (fun _ => hskip) hsub hlen
    have hsegments : segments previous current (e :: es) =
        segments (some e) (current ++ [e]) es := by
      rw [segments, if_neg (by simp [hcr, hlf]), if_neg hlf]
    have hnotEnd : ¬ (t = .lost ∧ (e = .cr ∨ e = .lf)) := by simp [hcr, hlf]
    rw [hsegments, offeredLines, lostLines, offered_of_inner hcr hlf, if_neg hnotEnd]
    simpa using ih (h.inner hcr hlf)

/-! ### The events that lose a line -/

/-- The meaning of the last of some events. -/
def recent (es : List RxEvent) : Recent := es.foldl Recent.next .other

lemma recent_append_singleton (es : List RxEvent) (e : RxEvent) :
    recent (es ++ [e]) = (recent es).next e := List.foldl_concat _ _ _ _

/-- A line is lost at a terminator whose events before it say so. -/
lemma lostLines_pos_iff : 0 < lostLines t es ↔
    ∃ before terminator after, es = before ++ terminator :: after ∧
      (terminator = .cr ∨ terminator = .lf) ∧ before.foldl Recent.next t = .lost := by
  induction es generalizing t with
  | nil => simp [lostLines]
  | cons e es ih =>
    rw [lostLines]
    constructor
    · intro hpos
      by_cases hnow : t = .lost ∧ (e = .cr ∨ e = .lf)
      · exact ⟨[], e, es, rfl, hnow.2, hnow.1⟩
      · rw [if_neg hnow, Nat.zero_add] at hpos
        obtain ⟨before, terminator, after, rfl, hend, hlost⟩ := ih.mp hpos
        exact ⟨e :: before, terminator, after, rfl, hend, hlost⟩
    · rintro ⟨before, terminator, after, heq, hend, hlost⟩
      cases before with
      | nil =>
        obtain ⟨rfl, rfl⟩ := List.cons_eq_cons.mp heq
        rw [if_pos ⟨hlost, hend⟩]
        omega
      | cons b before =>
        obtain ⟨rfl, rfl⟩ := List.cons_eq_cons.mp heq
        have hpos := ih.mpr ⟨before, terminator, after, rfl, hend, hlost⟩
        omega

lemma Recent.next_eq_cr : t.next e = .cr ↔ e = .cr := by
  unfold Recent.next
  split_ifs <;> simp_all

lemma Recent.next_eq_crError : t.next e = .crError ↔ e = .error ∧ (t = .cr ∨ t = .crError) := by
  unfold Recent.next
  split_ifs with hcr <;> simp_all [RxEvent.cr]

lemma Recent.next_eq_lost :
    t.next e = .lost ↔ (e = .lf ∧ t = .crError) ∨ (e.plain = true ∧ t = .lost) := by
  have hcr : RxEvent.cr ≠ .lf := by decide
  have herror : RxEvent.error ≠ .lf := by decide
  unfold Recent.next RxEvent.plain
  split_ifs <;> simp_all

lemma recent_eq_cr : recent es = .cr ↔ ∃ before, es = before ++ [.cr] := by
  induction es using List.reverseRecOn with
  | nil => simp [recent]
  | append_singleton es e _ =>
    rw [recent_append_singleton, Recent.next_eq_cr]
    constructor
    · rintro rfl
      exact ⟨es, rfl⟩
    · rintro ⟨before, heq⟩
      exact (List.append_singleton_inj.mp heq).2

lemma recent_eq_crError : recent es = .crError ↔
    ∃ before errors, es = before ++ .cr :: errors ∧ errors ≠ [] ∧ ∀ e ∈ errors, e = .error := by
  induction es using List.reverseRecOn with
  | nil => simp [recent]
  | append_singleton es e ih =>
    rw [recent_append_singleton, Recent.next_eq_crError]
    constructor
    · rintro ⟨rfl, hcr | hcrError⟩
      · obtain ⟨before, rfl⟩ := recent_eq_cr.mp hcr
        exact ⟨before, [.error], by simp, by simp, by simp⟩
      · obtain ⟨before, errors, rfl, -, herrors⟩ := ih.mp hcrError
        refine ⟨before, errors ++ [.error], by simp, by simp, fun e he => ?_⟩
        rcases List.mem_append.mp he with he | he
        · exact herrors e he
        · exact List.mem_singleton.mp he
    · rintro ⟨before, errors, heq, hne, herrors⟩
      obtain ⟨errors, e', rfl⟩ := (List.eq_nil_or_concat' errors).resolve_left hne
      have hcut : es ++ [e] = (before ++ .cr :: errors) ++ [e'] := by simpa using heq
      obtain ⟨rfl, rfl⟩ := List.append_singleton_inj.mp hcut
      refine ⟨herrors e (by simp), ?_⟩
      cases errors with
      | nil => exact Or.inl (recent_eq_cr.mpr ⟨before, rfl⟩)
      | cons e' errors =>
        exact Or.inr (ih.mpr ⟨before, e' :: errors, rfl, by simp, fun x hx =>
          herrors x (List.mem_append_left _ hx)⟩)

lemma recent_eq_lost : recent es = .lost ↔
    ∃ before errors line, es = before ++ .cr :: (errors ++ .lf :: line) ∧ errors ≠ [] ∧
      (∀ e ∈ errors, e = .error) ∧ ∀ e ∈ line, e.plain = true := by
  induction es using List.reverseRecOn with
  | nil => simp [recent]
  | append_singleton es e ih =>
    rw [recent_append_singleton, Recent.next_eq_lost]
    constructor
    · rintro (⟨rfl, hcrError⟩ | ⟨hplain, hlost⟩)
      · obtain ⟨before, errors, rfl, hne, herrors⟩ := recent_eq_crError.mp hcrError
        exact ⟨before, errors, [], by simp, hne, herrors, by simp⟩
      · obtain ⟨before, errors, line, rfl, hne, herrors, hline⟩ := ih.mp hlost
        refine ⟨before, errors, line ++ [e], by simp, hne, herrors, fun x hx => ?_⟩
        rcases List.mem_append.mp hx with hx | hx
        · exact hline x hx
        · exact (List.mem_singleton.mp hx) ▸ hplain
    · rintro ⟨before, errors, line, heq, hne, herrors, hline⟩
      rcases List.eq_nil_or_concat' line with rfl | ⟨line, e', rfl⟩
      · have hcut : es ++ [e] = (before ++ .cr :: errors) ++ [.lf] := by simpa using heq
        obtain ⟨rfl, rfl⟩ := List.append_singleton_inj.mp hcut
        exact Or.inl ⟨rfl, recent_eq_crError.mpr ⟨before, errors, rfl, hne, herrors⟩⟩
      · have hcut : es ++ [e] = (before ++ .cr :: (errors ++ .lf :: line)) ++ [e'] := by
          simpa using heq
        obtain ⟨rfl, rfl⟩ := List.append_singleton_inj.mp hcut
        exact Or.inr ⟨hline e (by simp), ih.mpr ⟨before, errors, line, rfl, hne, herrors,
          fun x hx => hline x (List.mem_append_left _ hx)⟩⟩

/-- **Lost lines.**  No line is lost exactly when the events have no suppressed segment. -/
theorem lostLines_eq_zero_iff : lostLines .other es = 0 ↔ ¬ Suppresses es := by
  have hpos : 0 < lostLines .other es ↔ Suppresses es := by
    rw [lostLines_pos_iff]
    constructor
    · rintro ⟨_, terminator, after, rfl, hend, hlost⟩
      obtain ⟨before, errors, line, rfl, hne, herrors, hline⟩ := recent_eq_lost.mp hlost
      exact ⟨before, errors, line, terminator, after, by simp, hne, herrors, hline, hend⟩
    · rintro ⟨before, errors, line, terminator, after, rfl, hne, herrors, hline, hend⟩
      refine ⟨before ++ .cr :: (errors ++ .lf :: line), terminator, after, by simp, hend, ?_⟩
      exact recent_eq_lost.mpr ⟨before, errors, line, rfl, hne, herrors, hline⟩
  rw [← hpos]
  omega

/-! ### Runs of the receiver -/

/-- An interrupt with what it reads, or a call of `uart_try_read_line`. -/
inductive UartAction where
  | interrupt (r : Reception)
  | read
  deriving DecidableEq

/-- The receiver after an action. -/
def uartStep : UartAction → Uart → Uart
  | .interrupt r, u => usart2IrqHandler r u
  | .read, u => (uartTryReadLine u).2

/-- The line that an action returns. -/
def uartResult : UartAction → Uart → Option (List UInt8)
  | .interrupt _, _ => none
  | .read, u => (uartTryReadLine u).1

/-- The event of an action. -/
def UartAction.event : UartAction → Option RxEvent
  | .interrupt r => r.event
  | .read => none

/-- The receiver as it is meant: the events since the reset, the queue, and the number of frames
that were dropped. -/
structure Receiver where
  events : List RxEvent := []
  queue : Fifo (List UInt8) rxFrames := .empty
  drops : UInt32 := 0

/-- A frame is enqueued whole, or dropped whole and counted once. -/
def Receiver.deliver (v : Receiver) (frame : List UInt8) : Receiver :=
  if v.queue.items.length < rxFrames then { v with queue := (v.queue.send frame).2 }
  else { v with drops := v.drops + 1 }

/-- One more event delivers the frames that the framing has gained. -/
def Receiver.receive (v : Receiver) (e : RxEvent) : Receiver :=
  let frames := (framesOf (v.events ++ [e])).drop (framesOf v.events).length
  { frames.foldl Receiver.deliver v with events := v.events ++ [e] }

/-- The meant receiver after an action. -/
def Receiver.step (a : UartAction) (v : Receiver) : Receiver :=
  match a with
  | .interrupt r => r.event.elim v v.receive
  | .read => { v with queue := v.queue.receive.2 }

/-- The line that an action of the meant receiver returns. -/
def Receiver.result : UartAction → Receiver → Option (List UInt8)
  | .interrupt _, _ => none
  | .read, v => v.queue.receive.1

/-- The events of a run. -/
def eventsOf (as : List UartAction) : List RxEvent := as.filterMap UartAction.event

/-- In the run, from the reset, the frames are those of the framing: in all of its parts the queue
and the count of drops, and what is read; if there is always space in the queue, exactly the frames
of the framing have been enqueued; and a line that is too long is answered as such. -/
structure FramesAsSpecified (as : List UartAction) : Prop where
  queue : ∀ bs, bs <+: as →
    (Machine.run uartStep {} bs).rxQueue = (Machine.run Receiver.step {} bs).queue
  drops : ∀ bs, bs <+: as →
    (Machine.run uartStep {} bs).rxDrops = (Machine.run Receiver.step {} bs).drops
  read : Machine.outputs uartStep uartResult {} as =
    Machine.outputs Receiver.step Receiver.result {} as
  enqueued : Machine.Along uartStep (fun _ u => u.rxQueue.items.length < rxFrames) {} as →
    (Machine.outputs uartStep uartResult {} as).reduceOption ++
      (Machine.run uartStep {} as).rxQueue.items = framesOf (eventsOf as)
  tooLong : ∀ segment ∈ segments none [] (eventsOf as), 63 < segment.length →
    ∀ frame, frameOf segment = some frame →
      ∀ out, commandParse frame out = some (.tooLong, out)

/-- One more event completes at most one segment. -/
lemma segments_append_singleton (previous : Option RxEvent) (current es : List RxEvent)
    (e : RxEvent) : ∃ segment : Option (List RxEvent),
      segments previous current (es ++ [e]) = segments previous current es ++ segment.toList := by
  induction es generalizing previous current with
  | nil =>
    simp only [List.nil_append, segments]
    split_ifs
    · exact ⟨some current, rfl⟩
    · exact ⟨none, rfl⟩
    · exact ⟨none, rfl⟩
  | cons e' es ih =>
    rw [List.cons_append, segments, segments]
    split_ifs
    · obtain ⟨segment, h⟩ := ih (some e') []
      exact ⟨segment, by rw [h, List.cons_append]⟩
    · exact ih (some e') current
    · exact ih (some e') (current ++ [e'])

/-- One more event completes at most one frame. -/
lemma framesOf_append_singleton (es : List RxEvent) (e : RxEvent) :
    ∃ frame : Option (List UInt8), framesOf (es ++ [e]) = framesOf es ++ frame.toList := by
  obtain ⟨segment, h⟩ := segments_append_singleton none [] es e
  unfold framesOf
  rw [h, List.filterMap_append]
  cases segment with
  | none => exact ⟨none, by simp⟩
  | some segment =>
    cases hframe : frameOf segment with
    | none => exact ⟨none, by simp [hframe]⟩
    | some frame => exact ⟨some frame, by simp [hframe]⟩

/-- The line that an event completes is offered last. -/
lemma offeredLines_append_singleton (a : Assembler) (es : List RxEvent) (e : RxEvent) :
    offeredLines a (es ++ [e]) =
      offeredLines a es ++ ((es.foldl Assembler.next a).offered e).toList := by
  induction es generalizing a with
  | nil => simp [offeredLines]
  | cons e' es ih =>
    rw [List.cons_append, offeredLines, offeredLines, ih, List.append_assoc, List.foldl_cons]

lemma synchronized_start : Synchronized .other {} none [] :=
  ⟨by simp, by simp, by simp, fun _ => by simp, nofun, nofun, nofun⟩

/-- From the reset the offered lines are the frames of the framing without the lost ones. -/
lemma offeredLines_framesOf (es : List RxEvent) :
    (offeredLines {} es).Sublist (framesOf es) ∧
      (offeredLines {} es).length + lostLines .other es = (framesOf es).length :=
  offeredLines_sublist synchronized_start

/-- Without a suppressed segment exactly the frames of the framing are offered. -/
lemma offeredLines_eq (h : ¬ Suppresses es) : offeredLines {} es = framesOf es := by
  obtain ⟨hsub, hlen⟩ := offeredLines_framesOf es
  rw [lostLines_eq_zero_iff.mpr h, Nat.add_zero] at hlen
  exact hsub.eq_of_length hlen

/-- If as many lines are offered as the framing has frames, no segment is suppressed. -/
lemma not_suppresses (h : (offeredLines {} es).length = (framesOf es).length) :
    ¬ Suppresses es := by
  have hlen := (offeredLines_framesOf es).2
  rw [← lostLines_eq_zero_iff]
  omega

lemma Suppresses.append (h : Suppresses es) (es' : List RxEvent) : Suppresses (es ++ es') := by
  obtain ⟨before, errors, line, terminator, after, rfl, hrest⟩ := h
  exact ⟨before, errors, line, terminator, after ++ es', by simp, hrest⟩

variable {as bs : List UartAction} {u : Uart} {v : Receiver}

lemma eventsOf_append (as bs : List UartAction) :
    eventsOf (as ++ bs) = eventsOf as ++ eventsOf bs := List.filterMap_append

/-- The meant receiver keeps all events. -/
lemma events_receiver (as : List UartAction) :
    (Machine.run Receiver.step {} as).events = eventsOf as := by
  induction as using List.reverseRecOn with
  | nil => rfl
  | append_singleton as a ih =>
    rw [Machine.run_append, eventsOf_append, ← ih, Machine.run_cons, Machine.run_nil]
    cases a with
    | read => exact (List.append_nil _).symm
    | interrupt r => cases h : r.event <;> simp [Receiver.step, eventsOf, UartAction.event, h,
        Receiver.receive]

/-- The handler assembles the events since the reset. -/
lemma assembler_receiver (as : List UartAction) :
    (Machine.run uartStep {} as).assembler = (eventsOf as).foldl Assembler.next {} := by
  induction as using List.reverseRecOn with
  | nil => rfl
  | append_singleton as a ih =>
    rw [Machine.run_append, eventsOf_append, List.foldl_append, ← ih, Machine.run_cons,
      Machine.run_nil]
    cases a with
    | read => rfl
    | interrupt r =>
      refine (usart2IrqHandler_eq r _).1.trans ?_
      cases h : r.event <;> simp [eventsOf, UartAction.event, h]

/-- The queue and the count of drops after an event of the meant receiver. -/
lemma receive_of_frames {e : RxEvent} {frame : Option (List UInt8)}
    (h : framesOf (v.events ++ [e]) = framesOf v.events ++ frame.toList) :
    (v.receive e).queue = (frame.elim v v.deliver).queue ∧
      (v.receive e).drops = (frame.elim v v.deliver).drops := by
  unfold Receiver.receive
  rw [h, List.drop_left]
  cases frame <;> exact ⟨rfl, rfl⟩

/-- Both receivers deliver a frame alike. -/
lemma deliver_eq (frame : Option (List UInt8)) (hqueue : u.rxQueue = v.queue)
    (hdrops : u.rxDrops = v.drops) :
    (u.deliver frame).rxQueue = (frame.elim v v.deliver).queue ∧
      (u.deliver frame).rxDrops = (frame.elim v v.deliver).drops := by
  cases frame with
  | none => exact ⟨hqueue, hdrops⟩
  | some frame =>
    unfold Uart.deliver Option.elim Receiver.deliver
    dsimp only
    rw [hqueue, hdrops]
    split_ifs <;> exact ⟨rfl, rfl⟩

/-- Whether there was a line can be told from the queue and the count of drops after it. -/
lemma length_of_deliver {x y : Option (List UInt8)}
    (hqueue : (u.deliver x).rxQueue = (u.deliver y).rxQueue)
    (hdrops : (u.deliver x).rxDrops = (u.deliver y).rxDrops) :
    x.toList.length = y.toList.length := by
  by_cases hspace : u.rxQueue.items.length < rxFrames
  · have hitems : ∀ z : Option (List UInt8), (u.deliver z).rxQueue.items.length =
        u.rxQueue.items.length + z.toList.length := by
      intro z
      cases z with
      | none => rfl
      | some line => simp [Uart.deliver, hspace, Fifo.send_items]
    have hlength : (u.deliver x).rxQueue.items.length = (u.deliver y).rxQueue.items.length := by
      rw [hqueue]
    rw [hitems, hitems] at hlength
    omega
  · have hcount : ∀ z : Option (List UInt8),
        (u.deliver z).rxDrops = u.rxDrops + z.elim 0 fun _ => 1 := by
      intro z
      cases z with
      | none => exact (UInt32.add_zero _).symm
      | some line => simp [Uart.deliver, hspace]
    rw [hcount, hcount, UInt32.add_right_inj] at hdrops
    have hone : (1 : UInt32) ≠ 0 := by decide
    cases x <;> cases y
    · rfl
    · exact absurd hdrops.symm hone
    · exact absurd hdrops hone
    · rfl

/-- What an interrupt with an event delivers, on both sides. -/
lemma interrupt_delivers {r : Reception} {e : RxEvent} (he : r.event = some e)
    (as : List UartAction) :
    ∃ frame : Option (List UInt8),
      framesOf (eventsOf as ++ [e]) = framesOf (eventsOf as) ++ frame.toList ∧
      (Receiver.step (.interrupt r) (Machine.run Receiver.step {} as)).queue =
        (frame.elim (Machine.run Receiver.step {} as) (Receiver.deliver
          (Machine.run Receiver.step {} as))).queue ∧
      (Receiver.step (.interrupt r) (Machine.run Receiver.step {} as)).drops =
        (frame.elim (Machine.run Receiver.step {} as) (Receiver.deliver
          (Machine.run Receiver.step {} as))).drops := by
  obtain ⟨frame, hframe⟩ := framesOf_append_singleton (eventsOf as) e
  rw [← events_receiver] at hframe
  obtain ⟨hqueue, hdrops⟩ := receive_of_frames hframe
  rw [events_receiver] at hframe
  refine ⟨frame, hframe, ?_, ?_⟩
  · rw [← hqueue, Receiver.step, he, Option.elim_some]
  · rw [← hdrops, Receiver.step, he, Option.elim_some]

/-- What an interrupt with an event offers in the handler. -/
lemma interrupt_offers {r : Reception} {e : RxEvent} (he : r.event = some e)
    (as : List UartAction) :
    ∃ line : Option (List UInt8),
      offeredLines {} (eventsOf as ++ [e]) = offeredLines {} (eventsOf as) ++ line.toList ∧
      (uartStep (.interrupt r) (Machine.run uartStep {} as)).rxQueue =
        ((Machine.run uartStep {} as).deliver line).rxQueue ∧
      (uartStep (.interrupt r) (Machine.run uartStep {} as)).rxDrops =
        ((Machine.run uartStep {} as).deliver line).rxDrops := by
  obtain ⟨-, hqueue, hdrops, -⟩ := usart2IrqHandler_eq r (Machine.run uartStep {} as)
  rw [he, Option.bind_some, assembler_receiver] at hqueue hdrops
  exact ⟨_, offeredLines_append_singleton _ _ _, hqueue, hdrops⟩

/-- The two receivers agree on the queue and on the count of drops after the actions. -/
def Agree (as : List UartAction) : Prop :=
  (Machine.run uartStep {} as).rxQueue = (Machine.run Receiver.step {} as).queue ∧
    (Machine.run uartStep {} as).rxDrops = (Machine.run Receiver.step {} as).drops

/-- Without a suppressed segment the receivers agree. -/
lemma agree_of_not_suppresses (h : ¬ Suppresses (eventsOf as)) : Agree as := by
  induction as using List.reverseRecOn with
  | nil => exact ⟨rfl, rfl⟩
  | append_singleton as a ih =>
    rw [eventsOf_append] at h
    obtain ⟨hqueue, hdrops⟩ := ih fun hbefore => h (hbefore.append _)
    unfold Agree
    rw [Machine.run_append, Machine.run_append, Machine.run_cons, Machine.run_cons,
      Machine.run_nil, Machine.run_nil]
    cases a with
    | read =>
      refine ⟨?_, hdrops⟩
      change (Fifo.receive _).2 = (Fifo.receive _).2
      rw [hqueue]
    | interrupt r =>
      cases he : r.event with
      | none =>
        obtain ⟨-, hqueue', hdrops', -⟩ := usart2IrqHandler_eq r (Machine.run uartStep {} as)
        rw [he, Option.bind_none] at hqueue' hdrops'
        rw [Receiver.step, he]
        exact ⟨hqueue'.trans hqueue, hdrops'.trans hdrops⟩
      | some e =>
        have hevents : eventsOf [.interrupt r] = [e] := by simp [eventsOf, UartAction.event, he]
        rw [hevents] at h
        obtain ⟨frame, hframes, hqueueR, hdropsR⟩ := interrupt_delivers he as
        obtain ⟨line, hlines, hqueueU, hdropsU⟩ := interrupt_offers he as
        have hsame : line.toList = frame.toList := by
          rw [offeredLines_eq h, hframes, offeredLines_eq fun hbefore => h (hbefore.append _),
            List.append_cancel_left_eq] at hlines
          exact hlines.symm
        obtain rfl : line = frame := by
          cases line <;> cases frame <;> simp_all
        obtain ⟨hqueue', hdrops'⟩ := deliver_eq line hqueue hdrops
        exact ⟨hqueueU.trans (hqueue'.trans hqueueR.symm),
          hdropsU.trans (hdrops'.trans hdropsR.symm)⟩

/-- If the receivers agree after every part of a run, as many lines are offered as the framing has
frames. -/
lemma length_offeredLines (h : ∀ bs, bs <+: as → Agree bs) :
    (offeredLines {} (eventsOf as)).length = (framesOf (eventsOf as)).length := by
  induction as using List.reverseRecOn with
  | nil => rfl
  | append_singleton as a ih =>
    have hbefore : Agree as := h as (List.prefix_append _ _)
    have hafter : Agree (as ++ [a]) := h _ (List.prefix_refl _)
    have hlen := ih fun bs hbs => h bs (hbs.trans (List.prefix_append _ _))
    rw [eventsOf_append]
    cases he : a.event with
    | none =>
      have hevents : eventsOf [a] = [] := by simp [eventsOf, he]
      rw [hevents, List.append_nil]
      exact hlen
    | some e =>
      have hevents : eventsOf [a] = [e] := by simp [eventsOf, he]
      cases a with
      | read => exact absurd he nofun
      | interrupt r =>
        unfold Agree at hafter
        rw [Machine.run_append, Machine.run_append, Machine.run_cons, Machine.run_cons,
          Machine.run_nil, Machine.run_nil] at hafter
        obtain ⟨frame, hframes, hqueueR, hdropsR⟩ := interrupt_delivers he as
        obtain ⟨line, hlines, hqueueU, hdropsU⟩ := interrupt_offers he as
        obtain ⟨hqueue', hdrops'⟩ := deliver_eq frame hbefore.1 hbefore.2
        have hsame := length_of_deliver
          (hqueueU.symm.trans (hafter.1.trans (hqueueR.trans hqueue'.symm)))
          (hdropsU.symm.trans (hafter.2.trans (hdropsR.trans hdrops'.symm)))
        rw [hevents, hlines, hframes, List.length_append, List.length_append, hlen, hsame]

/-- With space in the queue at every step, what has been read and what waits are the frames. -/
lemma enqueued_of_agree (h : ∀ bs, bs <+: as → Agree bs)
    (hspace : Machine.Along uartStep (fun _ u => u.rxQueue.items.length < rxFrames) {} as) :
    (Machine.outputs uartStep uartResult {} as).reduceOption ++
      (Machine.run uartStep {} as).rxQueue.items = framesOf (eventsOf as) := by
  induction as using List.reverseRecOn with
  | nil => rfl
  | append_singleton as a ih =>
    obtain ⟨hspace, hnow, -⟩ := Machine.along_append.mp hspace
    have hbefore := ih (fun bs hbs => h bs (hbs.trans (List.prefix_append _ _))) hspace
    have hagree : Agree as := h as (List.prefix_append _ _)
    have hafter : Agree (as ++ [a]) := h _ (List.prefix_refl _)
    have hqueue : (Machine.run uartStep {} (as ++ [a])).rxQueue =
        (Receiver.step a (Machine.run Receiver.step {} as)).queue := by
      rw [hafter.1, Machine.run_append, Machine.run_cons, Machine.run_nil]
    rw [Machine.outputs_append, List.reduceOption_append, List.append_assoc, eventsOf_append,
      hqueue]
    cases a with
    | read =>
      have hevents : eventsOf [.read] = [] := rfl
      rw [hevents, List.append_nil, ← hbefore, hagree.1]
      congr 1
      change List.reduceOption [(Machine.run uartStep {} as).rxQueue.receive.1] ++
        (Fifo.receive _).2.items = _
      rw [hagree.1]
      have hcut := Fifo.toList_receive_append (Machine.run Receiver.step {} as).queue
      refine Eq.trans ?_ hcut
      cases (Machine.run Receiver.step {} as).queue.receive.1 <;> rfl
    | interrupt r =>
      have hread : List.reduceOption (Machine.outputs uartStep uartResult
          (Machine.run uartStep {} as) [.interrupt r]) = [] := rfl
      rw [hread, List.nil_append]
      cases he : r.event with
      | none =>
        have hevents : eventsOf [.interrupt r] = [] := by simp [eventsOf, UartAction.event, he]
        rw [hevents, List.append_nil, ← hbefore, Receiver.step, he, Option.elim_none, hagree.1]
      | some e =>
        have hevents : eventsOf [.interrupt r] = [e] := by simp [eventsOf, UartAction.event, he]
        obtain ⟨frame, hframes, hqueueR, -⟩ := interrupt_delivers he as
        rw [hagree.1] at hnow hbefore
        rw [hevents, hframes, ← hbefore, hqueueR, List.append_assoc]
        congr 1
        cases frame with
        | none => exact (List.append_nil _).symm
        | some frame => simp [Receiver.deliver, hnow, Fifo.send_items]

/-- Agreeing receivers return the same lines. -/
lemma outputs_of_agree (h : ∀ bs, bs <+: as → Agree bs) :
    Machine.outputs uartStep uartResult {} as =
      Machine.outputs Receiver.step Receiver.result {} as := by
  induction as using List.reverseRecOn with
  | nil => rfl
  | append_singleton as a ih =>
    have hagree : Agree as := h as (List.prefix_append _ _)
    rw [Machine.outputs_append, Machine.outputs_append,
      ih fun bs hbs => h bs (hbs.trans (List.prefix_append _ _))]
    congr 1
    cases a with
    | interrupt r => rfl
    | read =>
      change [(Fifo.receive _).1] = [(Fifo.receive _).1]
      rw [hagree.1]

/-- A segment without an error is nothing but bytes. -/
lemma length_filterMap_toByte (segment : List RxEvent) (h : .error ∉ segment) :
    (segment.filterMap RxEvent.toByte).length = segment.length := by
  induction segment with
  | nil => rfl
  | cons e es ih =>
    rw [List.mem_cons, not_or] at h
    cases e with
    | error => exact absurd rfl h.1
    | byte b =>
      have hbyte : RxEvent.toByte (.byte b) = some b := rfl
      rw [List.filterMap_cons_some hbyte, List.length_cons, List.length_cons, ih h.2]

/-- The frame of a line that is longer than 63 bytes is too long for the parser. -/
lemma commandParse_frameOf {segment : List RxEvent} (hlong : 63 < segment.length)
    {frame : List UInt8} (hframe : frameOf segment = some frame) (out : MotionCommand) :
    commandParse frame out = some (.tooLong, out) := by
  unfold frameOf at hframe
  split_ifs at hframe with herror
  obtain rfl := Option.some.inj hframe
  have hlength : 64 ≤ ((segment.filterMap RxEvent.toByte).take uartRxLineCapacity).length := by
    rw [List.length_take, length_filterMap_toByte segment herror]
    exact le_min (le_refl 64) hlong
  exact if_pos hlength

/-- **Framing.**  From the reset, in a run of receptions and reads the frames are those of the
framing exactly when the events do not contain the sequence that suppresses a segment: a `CR`,
errors, an `LF`, and a line without an error up to its own terminator. -/
theorem uart_framing (as : List UartAction) :
    FramesAsSpecified as ↔ ¬ Suppresses (eventsOf as) := by
  constructor
  · intro h
    exact not_suppresses (length_offeredLines fun bs hbs => ⟨h.queue bs hbs, h.drops bs hbs⟩)
  · intro h
    have hagree : ∀ bs, bs <+: as → Agree bs := by
      rintro bs ⟨cs, rfl⟩
      refine agree_of_not_suppresses fun hbefore => h ?_
      rw [eventsOf_append]
      exact hbefore.append _
    exact ⟨fun bs hbs => (hagree bs hbs).1, fun bs hbs => (hagree bs hbs).2,
      outputs_of_agree hagree, enqueued_of_agree hagree,
      fun _ _ hlong _ hframe out => commandParse_frameOf hlong hframe out⟩

/-- A reception without an error. -/
def Reception.ofByte (b : UInt8) : Reception := ⟨usartSrRxne, b⟩

/-- A `CR`, an overrun, an `LF`, and then the line `A`. -/
def lineAfterOverrun : List UartAction :=
  [.interrupt (.ofByte (ascii '\r')), .interrupt ⟨usartSrRxne ||| 8, 0⟩,
    .interrupt (.ofByte (ascii '\n')), .interrupt (.ofByte (ascii 'A')),
    .interrupt (.ofByte (ascii '\r'))]

/-- The `LF` ends the segment with the overrun; but the line after it is lost. -/
theorem uart_framing_lost : ¬ FramesAsSpecified lineAfterOverrun := by
  intro h
  have hqueue := h.queue lineAfterOverrun (List.prefix_refl _)
  have hitems := congrArg Fifo.items hqueue
  revert hitems
  decide

end MotionFirmware
