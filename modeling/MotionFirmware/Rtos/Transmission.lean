import MotionFirmware.Protocol.CommandText
import MotionFirmware.Rtos.Service

/-!
# From the wire to Motion

On the target the bytes of a host pass through the receiver of `uart.c`, the queue of lines, the
parser, the queue of commands and the command loop.  Every frame of what is received is read, waits,
was dropped because the queue of lines was full, or was lost in the framing.  What Motion answers
are commands of the frames, each at most once and in their order; if nothing is dropped and no
command is refused, all of them.

A host that sends the texts of commands therefore has them executed in its order: a command that was
not sent is never executed, whatever the interleaving of the tasks and the interrupts.
-/

namespace MotionFirmware

/-- The command that a line is parsed as. -/
def lineCommand (line : List UInt8) : Option MotionCommand :=
  match commandParse line ⟨.status, 0⟩ with
  | some (.ok, command) => some command
  | _ => none

/-- What the receiver of the target is given by a step of the pipeline. -/
def PipelineAction.received : PipelineAction Reception → Option RxEvent
  | .arrive r => r.event
  | _ => none

/-- What the receiver of the target is given by a step of the firmware. -/
def FirmwareAction.received : FirmwareAction Reception → Option RxEvent
  | .arrive r => r.event
  | _ => none

/-- What the receiver of the target is given in a run. -/
def receivedEvents (as : List (FirmwareAction Reception)) : List RxEvent :=
  as.filterMap FirmwareAction.received

/-- How a host ends a line. -/
inductive Terminator where
  | cr
  | lf
  | crLf
  deriving DecidableEq

/-- A terminator on the wire. -/
def Terminator.wire : Terminator → List RxEvent
  | .cr => [.cr]
  | .lf => [.lf]
  | .crLf => [.cr, .lf]

/-- A line that a host sends: it contains no terminator, and it is parsed as a command. -/
structure SentLine where
  line : List UInt8
  terminator : Terminator
  command : MotionCommand
  plain : ∀ b ∈ line, b ≠ ascii '\r' ∧ b ≠ ascii '\n'
  parsed : lineCommand line = some command

/-- A line on the wire. -/
def SentLine.wire (s : SentLine) : List RxEvent := s.line.map RxEvent.byte ++ s.terminator.wire

/-- The line that Communications holds. -/
def CommsAt.heldLines : CommsAt → List (List UInt8)
  | .frame _ line => [line]
  | _ => []

/-- The commands that are on their way from the queue of lines to their answer. -/
def inFlight (f : Firmware Uart) : List MotionCommand :=
  f.unanswered ++ f.pipeline.bus.queue.items ++
    (f.pipeline.comms.heldLines ++ f.pipeline.input.rxQueue.items).filterMap lineCommand

/-! ### The receiver in the pipeline -/

/-- The lines that the receiver has offered for the events have been read, wait, or were dropped. -/
structure Carried (es : List RxEvent) (p : Pipeline Uart)
    (reads : List (Except UartError (List UInt8))) (dropped : ℕ) : Prop where
  assembler : p.input.assembler = es.foldl Assembler.next {}
  drops : p.input.rxDrops = UInt32.ofNat dropped
  lines : ∃ lines, reads = lines.map Except.ok ∧
    (lines ++ p.input.rxQueue.items).Sublist (offeredLines {} es) ∧
    (lines ++ p.input.rxQueue.items).length + dropped = (offeredLines {} es).length

section Receiver

variable {es : List RxEvent} {p p' : Pipeline Uart}
  {reads : List (Except UartError (List UInt8))} {dropped : ℕ}

/-- A step that leaves the receiver alone. -/
lemma Carried.of_same (h : Carried es p reads dropped) (hinput : p'.input = p.input) :
    Carried es p' reads dropped :=
  ⟨hinput ▸ h.assembler, hinput ▸ h.drops, hinput ▸ h.lines⟩

/-- A line is enqueued last, or dropped and counted. -/
lemma Carried.arrive (h : Carried es p reads dropped) (r : Reception) :
    ∃ dropped', Carried (es ++ r.event.toList) (pipelineStep stm32Driver (.arrive r) p) reads
      dropped' := by
  have hinput : (pipelineStep stm32Driver (.arrive r) p).input = usart2IrqHandler r p.input := rfl
  obtain ⟨hassembler, hqueue, hdrops, -⟩ := usart2IrqHandler_eq r p.input
  obtain ⟨lines, hreads, hsub, hlength⟩ := h.lines
  cases hevent : r.event with
  | none =>
    rw [hevent] at hassembler hqueue hdrops
    refine ⟨dropped, ?_, ?_, lines, hreads, ?_, ?_⟩ <;> rw [hinput]
    · rw [hassembler, Option.toList_none, List.append_nil]
      exact h.assembler
    · exact hdrops.trans h.drops
    · rw [hqueue, Option.toList_none, List.append_nil]
      exact hsub
    · rw [hqueue, Option.toList_none, List.append_nil]
      exact hlength
  | some e =>
    rw [hevent, Option.elim_some] at hassembler
    rw [hevent, Option.bind_some] at hqueue hdrops
    have hnext : (usart2IrqHandler r p.input).assembler =
        (es ++ [e]).foldl Assembler.next {} := by
      rw [hassembler, h.assembler, List.foldl_append]
      rfl
    have hoffered : offeredLines {} (es ++ [e]) =
        offeredLines {} es ++ (p.input.assembler.offered e).toList := by
      rw [offeredLines_append_singleton, h.assembler]
    rw [Option.toList_some]
    cases hline : p.input.assembler.offered e with
    | none =>
      rw [hline] at hqueue hdrops hoffered
      rw [Option.toList_none, List.append_nil] at hoffered
      refine ⟨dropped, hinput ▸ hnext, ?_, lines, hreads, ?_, ?_⟩ <;> rw [hinput]
      · exact hdrops.trans h.drops
      · rw [hqueue, hoffered]
        exact hsub
      · rw [hqueue, hoffered]
        exact hlength
    | some line =>
      rw [hline] at hqueue hdrops hoffered
      rw [Option.toList_some] at hoffered
      unfold Uart.deliver at hqueue hdrops
      dsimp only at hqueue hdrops
      by_cases hspace : p.input.rxQueue.items.length < rxFrames
      · have hitems : (usart2IrqHandler r p.input).rxQueue.items =
            p.input.rxQueue.items ++ [line] := by
          rw [hqueue, if_pos hspace]
          exact (Fifo.send_items _ _).trans (if_pos hspace)
        refine ⟨dropped, hinput ▸ hnext, ?_, lines, hreads, ?_, ?_⟩ <;> rw [hinput]
        · rw [hdrops, if_pos hspace]
          exact h.drops
        · rw [hitems, hoffered, ← List.append_assoc]
          exact hsub.append_right [line]
        · rw [hitems, hoffered]
          simp only [List.length_append, List.length_singleton] at hlength ⊢
          omega
      · have hsame : (usart2IrqHandler r p.input).rxQueue = p.input.rxQueue := by
          rw [hqueue, if_neg hspace]
        refine ⟨dropped + 1, hinput ▸ hnext, ?_, lines, hreads, ?_, ?_⟩ <;> rw [hinput]
        · rw [hdrops, if_neg hspace]
          change p.input.rxDrops + 1 = _
          rw [h.drops, UInt32.ofNat_add]
          rfl
        · rw [hsame, hoffered]
          exact hsub.trans (List.sublist_append_left _ _)
        · rw [hsame, hoffered]
          simp only [List.length_append, List.length_singleton] at hlength ⊢
          omega

/-- What Communications reads is the oldest line. -/
lemma Carried.comms (h : Carried es p reads dropped) :
    Carried es (commsTask stm32Driver p) (observeReads stm32Driver .comms p reads) dropped := by
  cases hcomms : p.comms with
  | drain i =>
    obtain ⟨lines, hreads, hsub, hlength⟩ := h.lines
    have hinput : (commsTask stm32Driver p).input = (uartStm32TryReadLine p.input).2 := by
      simp only [commsTask, hcomms]
      rfl
    have hsame : (uartStm32TryReadLine p.input).2.assembler = p.input.assembler ∧
        (uartStm32TryReadLine p.input).2.rxDrops = p.input.rxDrops ∧
        (uartStm32TryReadLine p.input).2.rxQueue.items = p.input.rxQueue.items.tail := by
      unfold uartStm32TryReadLine uartTryReadLine
      cases p.input.rxQueue.receive.1 <;> exact ⟨rfl, rfl, rfl⟩
    have hread : (stm32Driver.tryReadLine p.input).1 =
        (p.input.rxQueue.items.head?.map Except.ok).getD (.error .empty) := by
      change (uartStm32TryReadLine p.input).1 = _
      unfold uartStm32TryReadLine uartTryReadLine
      rw [Fifo.receive_fst]
      cases p.input.rxQueue.items.head? <;> rfl
    have hobserved : observeReads stm32Driver .comms p reads =
        reads ++ (p.input.rxQueue.items.head?.map Except.ok).toList := by
      simp only [observeReads, hcomms, hread]
      cases p.input.rxQueue.items.head? with
      | none => exact (List.append_nil _).symm
      | some line => rfl
    refine ⟨?_, ?_, lines ++ p.input.rxQueue.items.head?.toList, ?_, ?_, ?_⟩
    · rw [hinput, hsame.1]
      exact h.assembler
    · rw [hinput, hsame.2.1]
      exact h.drops
    · rw [hobserved, hreads, List.map_append]
      cases p.input.rxQueue.items.head? <;> rfl
    all_goals
      rw [hinput, hsame.2.2, List.append_assoc]
      have hsplit : p.input.rxQueue.items.head?.toList ++ p.input.rxQueue.items.tail =
          p.input.rxQueue.items := by
        cases p.input.rxQueue.items <;> rfl
      rw [hsplit]
    · exact hsub
    · exact hlength
  | _ =>
    have hobserved : observeReads stm32Driver .comms p reads = reads := by
      simp only [observeReads, hcomms]
    rw [hobserved]
    refine h.of_same ?_
    simp only [commsTask, hcomms]
    try
      first
        | rfl
        | (split_ifs <;> rfl)
        | (unfold Pipeline.handleFrame; split <;> rfl)

/-- **Step lemma.**  A step of the pipeline carries lines on. -/
theorem Carried.step (h : Carried es p reads dropped) (b : PipelineAction Reception) :
    ∃ dropped', Carried (es ++ b.received.toList) (pipelineStep stm32Driver b p)
      (observeReads stm32Driver b p reads) dropped' := by
  have hsilent : ∀ {q : Pipeline Uart} {after : List (Except UartError (List UInt8))},
      b.received = none → Carried es q after dropped →
      ∃ dropped', Carried (es ++ b.received.toList) q after dropped' := by
    intro q after hnone hq
    rw [hnone, Option.toList_none, List.append_nil]
    exact ⟨dropped, hq⟩
  cases b with
  | arrive r => exact h.arrive r
  | comms => exact hsilent rfl h.comms
  | timeout =>
    refine hsilent rfl (h.of_same ?_)
    change (commsTimeout p).input = p.input
    unfold commsTimeout
    cases p.comms <;> rfl
  | motion =>
    refine hsilent rfl (h.of_same ?_)
    change (motionTaskCommands p).input = p.input
    unfold motionTaskCommands
    cases p.motion with
    | receive i =>
      dsimp only
      split_ifs
      · split <;> rfl
      · rfl
    | _ => rfl
  | inputReady | requestStop => exact hsilent rfl (h.of_same rfl)

/-- The lines of a run of the pipeline. -/
theorem carried_run (bs : List (PipelineAction Reception)) :
    ∃ dropped, Carried (bs.filterMap PipelineAction.received)
      (Machine.run (pipelineStep stm32Driver) { input := {} } bs)
      (Machine.watch (pipelineStep stm32Driver) (observeReads stm32Driver) { input := {} } [] bs)
      dropped := by
  induction bs using List.reverseRecOn with
  | nil => exact ⟨0, rfl, rfl, [], rfl, List.Sublist.refl _, rfl⟩
  | append_singleton bs b ih =>
    obtain ⟨dropped, h⟩ := ih
    have hreceived : (bs ++ [b]).filterMap PipelineAction.received =
        bs.filterMap PipelineAction.received ++ b.received.toList := by
      rw [List.filterMap_append]
      cases hb : b.received <;> simp [hb]
    rw [hreceived, Machine.run_append, Machine.watch_append]
    exact h.step b

end Receiver

/-! ### Verdicts on lines -/

/-- A verdict on a line admits its command, or nothing. -/
lemma admittedOf_verdict {line : List UInt8} {report : Report} (h : Verdict (.ok line) report) :
    admittedOf report = lineCommand line ∨
      admittedOf report = none ∧ ∃ command, report = .command .queueFull command .ok := by
  obtain ⟨result, command, hparse, hreport⟩ := h
  unfold lineCommand
  rw [hparse]
  by_cases hok : result = .ok
  · subst hok
    rw [if_pos rfl] at hreport
    rcases hreport with rfl | rfl
    · exact Or.inl rfl
    · exact Or.inr ⟨rfl, command, rfl⟩
  · rw [if_neg hok] at hreport
    subst hreport
    left
    cases result with
    | ok => exact absurd rfl hok
    | _ => rfl

/-- The commands that are admitted are commands of the lines that were read; all of them, if the
queue of commands was never full. -/
lemma admitted_of_verdicts {lines : List (List UInt8)} {verdicts : List Report}
    (h : List.Forall₂ Verdict (lines.map Except.ok) verdicts) :
    (verdicts.filterMap admittedOf).Sublist (lines.filterMap lineCommand) ∧
      ((∀ command, Report.command .queueFull command .ok ∉ verdicts) →
        verdicts.filterMap admittedOf = lines.filterMap lineCommand) := by
  induction lines generalizing verdicts with
  | nil =>
    obtain rfl : verdicts = [] := List.forall₂_nil_left_iff.mp h
    exact ⟨List.Sublist.refl _, fun _ => rfl⟩
  | cons line lines ih =>
    rw [List.map_cons] at h
    obtain ⟨report, reports, hverdict, hrest, rfl⟩ := List.forall₂_cons_left_iff.mp h
    obtain ⟨hsub, heq⟩ := ih hrest
    have htail : (∀ command, Report.command .queueFull command .ok ∉ report :: reports) →
        reports.filterMap admittedOf = lines.filterMap lineCommand := fun hnever =>
      heq fun command hmem => hnever command (List.mem_cons_of_mem _ hmem)
    rcases admittedOf_verdict hverdict with hadmitted | ⟨hadmitted, command, rfl⟩
    · cases hcommand : lineCommand line with
      | none =>
        rw [List.filterMap_cons_none (hadmitted.trans hcommand),
          List.filterMap_cons_none hcommand]
        exact ⟨hsub, htail⟩
      | some command =>
        rw [List.filterMap_cons_some (hadmitted.trans hcommand),
          List.filterMap_cons_some hcommand]
        exact ⟨hsub.cons_cons command, fun hnever => congrArg _ (htail hnever)⟩
    · rw [List.filterMap_cons_none hadmitted]
      refine ⟨hsub.trans ((List.sublist_cons_self line lines).filterMap _), fun hnever => ?_⟩
      exact absurd List.mem_cons_self (hnever command)

/-! ### The frames of a run -/

section Firmware

variable [Rounding]

/-- The receiver of the firmware is that of the pipeline. -/
lemma received_pipelineTrace (env : Environment) (as : List (FirmwareAction Reception)) :
    (pipelineTrace stm32Driver env {} as).filterMap PipelineAction.received =
      receivedEvents as := by
  unfold pipelineTrace receivedEvents
  induction as using List.reverseRecOn with
  | nil => rfl
  | append_singleton as a ih =>
    rw [Machine.trace_append, List.filterMap_append, List.filterMap_append, ih]
    congr 1
    generalize Machine.run (firmwareStep stm32Driver) (firmwareInit env {}) as = f
    have hone : Machine.trace (firmwareStep stm32Driver) pipelineLabels f [a] =
        pipelineLabels a f := by
      rw [Machine.trace_cons, Machine.trace_nil, List.append_nil]
    rw [hone]
    cases a with
    | arrive r => rfl
    | motion now =>
      change _ = []
      refine List.filterMap_eq_nil_iff.mpr fun b hb => ?_
      unfold pipelineLabels at hb
      dsimp only at hb
      split_ifs at hb
      · rw [mem_motionPipeline hb]
        rfl
      · exact absurd hb nofun
    | comms now | timeout =>
      unfold pipelineLabels
      dsimp only
      split_ifs <;> rfl
    | _ => rfl

/-- The frames of a run have been read, wait, were dropped, or were lost in the framing. -/
lemma carried_firmware (env : Environment) (as : List (FirmwareAction Reception)) :
    ∃ lines dropped,
      firmwareReads stm32Driver env {} as = lines.map Except.ok ∧
      (lines ++ (firmware stm32Driver env {} as).pipeline.input.rxQueue.items).Sublist
        (framesOf (receivedEvents as)) ∧
      (lines ++ (firmware stm32Driver env {} as).pipeline.input.rxQueue.items).length + dropped +
        lostLines .other (receivedEvents as) = (framesOf (receivedEvents as)).length ∧
      (firmware stm32Driver env {} as).pipeline.input.rxDrops = UInt32.ofNat dropped := by
  obtain ⟨dropped, hcarried⟩ := carried_run (pipelineTrace stm32Driver env {} as)
  rw [received_pipelineTrace, ← pipeline_firmware stm32Driver env {} as] at hcarried
  obtain ⟨lines, hreads, hsub, hlength⟩ := hcarried.lines
  obtain ⟨hframes, hlost⟩ := offeredLines_framesOf (receivedEvents as)
  exact ⟨lines, dropped, hreads, hsub.trans hframes, by omega, hcarried.drops⟩

/-- The lines that Communications has judged, and the one that it holds. -/
lemma judged_lines (env : Environment) (as : List (FirmwareAction Reception))
    {lines : List (List UInt8)}
    (hreads : firmwareReads stm32Driver env {} as = lines.map Except.ok) :
    ∃ judged, lines = judged ++ (firmware stm32Driver env {} as).pipeline.comms.heldLines ∧
      List.Forall₂ Verdict (judged.map Except.ok)
        ((firmwareLog stm32Driver env {} as).wanted .comms) := by
  obtain ⟨judged, reading, hsplit, hreading, hverdicts⟩ :=
    (dialogue_firmware stm32Driver env {} as).verdicts
  dsimp only at hsplit hverdicts
  rw [hreads] at hsplit
  obtain ⟨front, back, rfl, rfl, rfl⟩ := List.map_eq_append_iff.mp hsplit
  refine ⟨front, ?_, hverdicts⟩
  congr 1
  cases hcomms : (firmware stm32Driver env {} as).pipeline.comms with
  | frame i line =>
    rw [hcomms] at hreading
    obtain ⟨held, rest, rfl, hheld, hrest⟩ := List.map_eq_cons_iff.mp hreading
    obtain rfl := List.map_eq_nil_iff.mp hrest
    rw [Except.ok.inj hheld]
    rfl
  | failed =>
    rw [hcomms] at hreading
    obtain ⟨error, -, hfailed⟩ := hreading
    obtain ⟨held, rest, -, hheld, -⟩ := List.map_eq_cons_iff.mp hfailed
    exact absurd hheld nofun
  | _ =>
    rw [hcomms] at hreading
    exact List.map_eq_nil_iff.mp hreading

/-- What Motion answers are commands of the frames that have been received, each at most once and in
their order. -/
lemma answered_sublist_frames (env : Environment) (as : List (FirmwareAction Reception)) :
    (firmwareLog stm32Driver env {} as).answered.Sublist
      ((framesOf (receivedEvents as)).filterMap lineCommand) := by
  obtain ⟨lines, dropped, hreads, hsub, -⟩ := carried_firmware env as
  obtain ⟨judged, rfl, hverdicts⟩ := judged_lines env as hreads
  have hinitial := (answered_initial stm32Driver env {} as).sublist
  refine hinitial.trans ((admitted_of_verdicts hverdicts).1.trans (List.Sublist.filterMap _ ?_))
  rw [List.append_assoc] at hsub
  exact (List.sublist_append_left _ _).trans hsub

/-- **Transmission.**  In every run every frame of what the target receives has been read, waits,
was dropped and counted, or was lost in the framing, and of the last there are none unless a segment
is suppressed; and what Motion answers are commands of these frames, each at most once and in their
order. -/
theorem target_transmission (env : Environment) (as : List (FirmwareAction Reception)) :
    let f := firmware stm32Driver env {} as
    let frames := framesOf (receivedEvents as)
    (∃ lines dropped lost, firmwareReads stm32Driver env {} as = lines.map Except.ok ∧
        (lines ++ f.pipeline.input.rxQueue.items).Sublist frames ∧
        frames.length = lines.length + f.pipeline.input.rxQueue.items.length + dropped + lost ∧
        f.pipeline.input.rxDrops = UInt32.ofNat dropped ∧
        (lost = 0 ↔ ¬ Suppresses (receivedEvents as))) ∧
      (firmwareLog stm32Driver env {} as).answered.Sublist (frames.filterMap lineCommand) := by
  intro f frames
  obtain ⟨lines, dropped, hreads, hsub, hlength, hdrops⟩ := carried_firmware env as
  rw [List.length_append] at hlength
  exact ⟨⟨lines, dropped, lostLines .other (receivedEvents as), hreads, hsub, hlength.symm, hdrops,
    lostLines_eq_zero_iff⟩, answered_sublist_frames env as⟩

/-- If no line is dropped and no command refused, the commands of the frames are those that Motion
has answered and those on their way. -/
lemma commands_of_frames (env : Environment) (as : List (FirmwareAction Reception))
    (hwell : ¬ Suppresses (receivedEvents as))
    (hfew : (framesOf (receivedEvents as)).length < 2 ^ 32)
    (hdrops : (firmware stm32Driver env {} as).pipeline.input.rxDrops = 0)
    (hfull : ∀ command, Report.command .queueFull command .ok ∉
      (firmwareLog stm32Driver env {} as).wanted .comms) :
    (framesOf (receivedEvents as)).filterMap lineCommand =
      (firmwareLog stm32Driver env {} as).answered ++
        inFlight (firmware stm32Driver env {} as) := by
  obtain ⟨lines, dropped, hreads, hsub, hlength, hcount⟩ := carried_firmware env as
  rw [lostLines_eq_zero_iff.mpr hwell, Nat.add_zero] at hlength
  have hnone : dropped = 0 := by
    have hzero : (UInt32.ofNat dropped).toNat = 0 := by
      rw [← hcount, hdrops]
      rfl
    have hsmall : dropped < UInt32.size := lt_of_le_of_lt (by omega) hfew
    rw [UInt32.toNat_ofNat_of_lt' hsmall] at hzero
    exact hzero
  rw [hnone, Nat.add_zero] at hlength
  obtain ⟨judged, rfl, hverdicts⟩ := judged_lines env as hreads
  have hadmitted := (admitted_of_verdicts hverdicts).2 hfull
  have hanswered := admitted_firmware stm32Driver env {} as
  rw [← hsub.eq_of_length hlength, List.append_assoc, List.filterMap_append, ← hadmitted, hanswered]
  unfold inFlight FirmwareLog.answered
  simp only [List.append_assoc]

end Firmware

/-! ### Lines of a host -/

/-- A command is not empty. -/
lemma SentLine.line_ne_nil (s : SentLine) : s.line ≠ [] := by
  intro hnil
  have hparsed := s.parsed
  have hnone : lineCommand [] = none := by decide
  rw [hnil, hnone] at hparsed
  exact absurd hparsed nofun

/-- A command fits into a line of the receiver. -/
lemma SentLine.line_length (s : SentLine) : s.line.length ≤ uartRxLineCapacity := by
  obtain ⟨result, command, hparse, houtcome⟩ := commandParse_parses s.line ⟨.status, 0⟩
  have hparsed := s.parsed
  unfold lineCommand at hparsed
  rw [hparse] at hparsed
  cases houtcome with
  | tooLong => exact absurd hparsed nofun
  | _ => unfold uartRxLineCapacity; omega

/-- The bytes of a line extend the open segment. -/
lemma segments_bytes {line : List UInt8} (hplain : ∀ b ∈ line, b ≠ ascii '\r' ∧ b ≠ ascii '\n')
    (hne : line ≠ []) (previous : Option RxEvent) (current rest : List RxEvent) :
    ∃ previous', previous' ≠ some .cr ∧
      segments previous current (line.map RxEvent.byte ++ rest) =
        segments previous' (current ++ line.map RxEvent.byte) rest := by
  induction line generalizing previous current with
  | nil => exact absurd rfl hne
  | cons b line ih =>
    obtain ⟨hcr, hlf⟩ := hplain b List.mem_cons_self
    have hbyte : segments previous current ((b :: line).map RxEvent.byte ++ rest) =
        segments (some (.byte b)) (current ++ [.byte b]) (line.map RxEvent.byte ++ rest) := by
      rw [List.map_cons, List.cons_append, segments,
        if_neg (by simp [RxEvent.cr, RxEvent.lf, hcr, hlf]), if_neg (by simp [RxEvent.lf, hlf])]
    rw [hbyte]
    by_cases hlast : line = []
    · subst hlast
      exact ⟨some (.byte b), by simp [RxEvent.cr, hcr], rfl⟩
    · obtain ⟨previous', hprevious, hsegments⟩ :=
        ih (fun c hc => hplain c (List.mem_cons_of_mem b hc)) hlast (some (.byte b))
          (current ++ [.byte b])
      refine ⟨previous', hprevious, ?_⟩
      rw [hsegments, List.append_assoc]
      rfl

/-- A terminator ends the open segment. -/
lemma segments_terminator {previous : Option RxEvent} (h : previous ≠ some .cr) (t : Terminator)
    (current rest : List RxEvent) :
    ∃ previous', segments previous current (t.wire ++ rest) =
      current :: segments previous' [] rest := by
  cases t with
  | cr => exact ⟨some .cr, by simp [Terminator.wire, segments]⟩
  | lf => exact ⟨some .lf, by simp [Terminator.wire, segments, h]⟩
  | crLf =>
    refine ⟨some .lf, ?_⟩
    have hlf : RxEvent.lf ≠ .cr := by decide
    simp [Terminator.wire, segments, hlf]

/-- The frame of a line is the line. -/
lemma frameOf_line (s : SentLine) : frameOf (s.line.map RxEvent.byte) = some s.line := by
  have hclean : RxEvent.error ∉ s.line.map RxEvent.byte := by simp
  have hbytes : (s.line.map RxEvent.byte).filterMap RxEvent.toByte = s.line := by
    rw [List.filterMap_map]
    exact List.filterMap_some
  rw [frameOf, if_neg hclean, hbytes, List.take_of_length_le s.line_length]

/-- The frames of what a host sends are its lines. -/
lemma framesOf_sent (sent : List SentLine) :
    framesOf (sent.flatMap SentLine.wire) = sent.map SentLine.line := by
  unfold framesOf
  generalize (none : Option RxEvent) = previous
  induction sent generalizing previous with
  | nil => rfl
  | cons s sent ih =>
    obtain ⟨inside, hinside, hbytes⟩ :=
      segments_bytes s.plain s.line_ne_nil previous []
        (s.terminator.wire ++ sent.flatMap SentLine.wire)
    obtain ⟨after, hend⟩ :=
      segments_terminator hinside s.terminator ([] ++ s.line.map RxEvent.byte)
        (sent.flatMap SentLine.wire)
    rw [List.flatMap_cons, SentLine.wire, List.append_assoc, hbytes, hend, List.nil_append,
      List.filterMap_cons_some (frameOf_line s), ih, List.map_cons]

/-- More events complete more frames. -/
lemma framesOf_append (es es' : List RxEvent) : framesOf es <+: framesOf (es ++ es') := by
  induction es' using List.reverseRecOn with
  | nil => rw [List.append_nil]
  | append_singleton es' e ih =>
    obtain ⟨frame, hframe⟩ := framesOf_append_singleton (es ++ es') e
    rw [← List.append_assoc, hframe]
    exact ih.trans (List.prefix_append _ _)

/-- The commands of the lines. -/
lemma filterMap_lines (sent : List SentLine) :
    (sent.map SentLine.line).filterMap lineCommand = sent.map SentLine.command := by
  induction sent with
  | nil => rfl
  | cons s sent ih =>
    rw [List.map_cons, List.filterMap_cons_some s.parsed, ih, List.map_cons]

/-- A host sends no errors. -/
lemma not_suppresses_sent {es : List RxEvent} {sent : List SentLine}
    (h : es <+: sent.flatMap SentLine.wire) : ¬ Suppresses es := by
  rintro ⟨before, errors, line, terminator, after, rfl, hne, herrors, -⟩
  obtain ⟨e, herror⟩ := List.exists_mem_of_ne_nil errors hne
  obtain rfl := herrors e herror
  have hmem : RxEvent.error ∈ sent.flatMap SentLine.wire := h.subset (by simp [herror])
  obtain ⟨s, -, hwire⟩ := List.mem_flatMap.mp hmem
  unfold SentLine.wire at hwire
  rcases List.mem_append.mp hwire with hbyte | hterminator
  · obtain ⟨b, -, hb⟩ := List.mem_map.mp hbyte
    exact absurd hb nofun
  · cases hs : s.terminator <;> rw [hs] at hterminator <;>
      simp [Terminator.wire, RxEvent.cr, RxEvent.lf] at hterminator

/-- The text of a command contains no terminator. -/
lemma plain_commandText [DoubleRounding] {out : ℕ → UInt8} {capacity : ℕ} {memory : Stream' VaArg}
    {command : MotionCommand} {text : List UInt8}
    (htext : commandText out capacity memory command = some text) :
    ∀ b ∈ text, b ≠ ascii '\r' ∧ b ≠ ascii '\n' := by
  have hblack : ∀ {b : UInt8}, whitespace b = false → b ≠ ascii '\r' ∧ b ≠ ascii '\n' := by
    intro b hb
    constructor <;> rintro rfl <;> exact absurd hb (by decide)
  obtain ⟨-, hname, -⟩ := name_word command.type
  unfold commandText at htext
  split_ifs at htext
  · rw [formatted_longDecimal, Option.map_eq_some_iff] at htext
    obtain ⟨number, hnumber, rfl⟩ := htext
    split_ifs at hnumber
    obtain rfl := Option.some.inj hnumber
    intro b hb
    rcases List.mem_append.mp hb with hb | hb
    · exact hblack (hname b hb)
    rcases List.mem_cons.mp hb with rfl | hb
    · decide
    unfold integerText at hb
    rcases List.mem_append.mp hb with hb | hb
    · split_ifs at hb
      · rw [List.mem_singleton.mp hb]
        decide
      · exact absurd hb List.not_mem_nil
    · exact hblack (not_whitespace_of_digit (digit_of_mem_decimalText hb)).1
  · obtain rfl := Option.some.inj htext
    exact fun b hb => hblack (hname b hb)

/-- The text of a command is a line that a host can send. -/
theorem exists_sentLine [DoubleRounding] {out : ℕ → UInt8} {capacity : ℕ} {memory : Stream' VaArg}
    {command : MotionCommand} {text : List UInt8}
    (htext : commandText out capacity memory command = some text)
    (hzero : command.type.takesArgument = false → command.value = 0) (t : Terminator) :
    ∃ s : SentLine, s.line = text ∧ s.terminator = t ∧ s.command = command := by
  obtain ⟨hdenotes, hunpadded, hne⟩ := denotes_commandText htext hzero
  have hstripped : stripped text = text := by
    have hpadded : stripped ([] ++ text ++ []) = text :=
      stripped_padded hunpadded (by simp) (by simp)
    rwa [List.nil_append, List.append_nil] at hpadded
  have hshort : text.length < 64 := lt_of_le_of_lt (length_commandText_le htext) (by norm_num)
  have hparse : commandParse text ⟨.status, 0⟩ = some (.ok, command) := by
    refine commandParse_of_denotes _ hshort ?_ ?_ <;> rw [hstripped]
    · exact hne
    · exact hdenotes
  have hparsed : lineCommand text = some command := by
    unfold lineCommand
    rw [hparse]
  exact ⟨⟨text, t, command, plain_commandText htext, hparsed⟩, rfl, rfl, rfl⟩

section Sent

variable [Rounding]

/-- **Commands of a host.**  Whatever part of the lines of a host the target has received, and
whatever the interleaving of the tasks and the interrupts, Motion answers commands that the host has
sent, each at most once and in the order in which they were sent.  If no line was dropped and no
command refused, it answers all of them but those that are on their way, and those that have not
been received. -/
theorem sent_commands_answered (env : Environment) (as : List (FirmwareAction Reception))
    (sent : List SentLine) (h : receivedEvents as <+: sent.flatMap SentLine.wire) :
    let f := firmware stm32Driver env {} as
    let l := firmwareLog stm32Driver env {} as
    l.answered.Sublist (sent.map SentLine.command) ∧
      (sent.length < 2 ^ 32 → f.pipeline.input.rxDrops = 0 →
        (∀ command, Report.command .queueFull command .ok ∉ l.wanted .comms) →
        ∃ later, sent.map SentLine.command = l.answered ++ inFlight f ++ later ∧
          (receivedEvents as = sent.flatMap SentLine.wire → later = [])) := by
  intro f l
  obtain ⟨rest, hrest⟩ := h
  have hframes : framesOf (receivedEvents as) <+: sent.map SentLine.line := by
    rw [← framesOf_sent, ← hrest]
    exact framesOf_append _ rest
  constructor
  · rw [← filterMap_lines]
    exact (answered_sublist_frames env as).trans (hframes.sublist.filterMap _)
  · intro hfew hdrops hfull
    have hlength := hframes.length_le
    rw [List.length_map] at hlength
    have hcommands := commands_of_frames env as (not_suppresses_sent ⟨rest, hrest⟩)
      (lt_of_le_of_lt hlength hfew) hdrops hfull
    obtain ⟨tail, htail⟩ := hframes
    refine ⟨tail.filterMap lineCommand, ?_, fun hall => ?_⟩
    · rw [← filterMap_lines, ← htail, List.filterMap_append, hcommands]
    · rw [hall, framesOf_sent] at htail
      rw [List.append_right_eq_self.mp htail]
      rfl

omit [Rounding] in
/-- The line of a host that stops the axis. -/
def estopLine : SentLine where
  line := literal "ESTOP"
  terminator := .crLf
  command := ⟨.estop, 0⟩
  plain := by decide +kernel
  parsed := by decide +kernel

omit [Rounding] in
/-- The application starts, the line is received, admitted and answered. -/
def receivedEstop : List (FirmwareAction Reception) :=
  List.replicate 30 (.motion 0) ++
    (literal "ESTOP\r\n").map (fun b => .arrive (.ofByte b)) ++
    List.replicate 7 (.comms 0) ++ List.replicate 60 (.motion 0)

omit [Rounding] in
/-- The `ESTOP` that was sent is answered. -/
theorem sent_commands_answered_estop :
    receivedEvents receivedEstop <+: [estopLine].flatMap SentLine.wire ∧
      (@firmwareLog _ _ Binary32.rounding stm32Driver standstill {} receivedEstop).answered =
        [⟨.estop, 0⟩] := by
  have hall : receivedEvents receivedEstop = [estopLine].flatMap SentLine.wire := by decide +kernel
  have hinitial : receivedEvents receivedEstop <+: [estopLine].flatMap SentLine.wire :=
    hall ▸ List.prefix_refl _
  refine ⟨hinitial, ?_⟩
  have hwanted : (@firmwareLog _ _ Binary32.rounding stm32Driver standstill {}
      receivedEstop).wanted .comms = [.command .queued ⟨.estop, 0⟩ .ok] := by decide +kernel
  have hflight : inFlight (@firmware Binary32.rounding _ _ stm32Driver standstill {}
      receivedEstop) = [] := by decide +kernel
  obtain ⟨later, hsplit, hlater⟩ := (@sent_commands_answered Binary32.rounding standstill
    receivedEstop [estopLine] hinitial).2 (by decide) (by decide +kernel) (by simp [hwanted])
  rw [hlater hall, hflight, List.append_nil, List.append_nil] at hsplit
  exact hsplit.symm

end Sent

end MotionFirmware
