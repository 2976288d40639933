import MotionFirmware.Rtos.CompletionLog
import MotionFirmware.Rtos.Delivery
import MotionFirmware.Rtos.WakeUp

/-!
# Every frame and every command is answered

Communications reports a verdict on every frame that it reads, and Motion an answer to every command
that it takes.  Both do so in order and once: the commands with the verdict `QUEUED` are those that
Motion takes, and its answers are to these commands, one after the other.  So what a host sees of
its commands, as long as no record is lost, is what has become of them.
-/

namespace MotionFirmware

/-- The command that a report of Motion answers. -/
def answerOf : Report → Option MotionCommand
  | .motion command _ => some command
  | .command .received command _ => some command
  | _ => none

/-- The command that a verdict of Communications has admitted. -/
def admittedOf : Report → Option MotionCommand
  | .command .queued command _ => some command
  | _ => none

/-- The verdict on what Communications has read. -/
def Verdict : Except UartError (List UInt8) → Report → Prop
  | .error error, report => error ≠ .empty ∧ report = .text (cString "ERR UART_RX")
  | .ok line, report => ∃ result command, commandParse line ⟨.status, 0⟩ = some (result, command) ∧
    if result = .ok then
      report = .command .queued command .ok ∨ report = .command .queueFull command .ok
    else report = .command .parseError command result

/-- What Communications has read and given no verdict on yet. -/
def CommsAt.Reading : CommsAt → List (Except UartError (List UInt8)) → Prop
  | .failed, reads => ∃ error, error ≠ .empty ∧ reads = [.error error]
  | .frame _ line, reads => reads = [.ok line]
  | _, reads => reads = []

/-- Communications judges a read before the next one. -/
lemma CommsAt.Reading.length_le {c : CommsAt} {reads : List (Except UartError (List UInt8))}
    (h : c.Reading reads) : reads.length ≤ 1 := by
  cases c with
  | failed =>
    obtain ⟨error, -, rfl⟩ := h
    exact le_refl 1
  | frame i line =>
    obtain rfl : reads = [.ok line] := h
    exact le_refl 1
  | _ =>
    obtain rfl : reads = [] := h
    exact Nat.zero_le 1

/-- The command that Motion executes. -/
def Phase.executing : Phase → List MotionCommand
  | .execute _ command => [command]
  | _ => []

/-- The command that Motion has taken and not counted. -/
def MotionAt.holding : MotionAt → List MotionCommand
  | .taken _ command => [command]
  | _ => []

section Observers

variable {δ ε : Type}

/-- The commands that the runtime is given at its `command_bus_receive`s. -/
def observeGiven (a : Action) (w : World) (given : List MotionCommand) : List MotionCommand :=
  match a, w.task.phase with
  | .motion (some command), .receive _ => given ++ [command]
  | _, _ => given

/-- The commands that `command_bus_receive` has returned. -/
def observeReceived (a : PipelineAction ε) (p : Pipeline δ) (received : List MotionCommand) :
    List MotionCommand :=
  match a, p.motion with
  | .motion, .receive i =>
    if i < commandLimit then received ++ (commandBusReceive p.bus).1.toList else received
  | _, _ => received

/-- What `uart_try_read_line` has returned, apart from `UART_EMPTY`. -/
def observeReads (driver : InputDriver δ ε) (a : PipelineAction ε) (p : Pipeline δ)
    (reads : List (Except UartError (List UInt8))) : List (Except UartError (List UInt8)) :=
  match a, p.comms with
  | .comms, .drain _ =>
    match (driver.tryReadLine p.input).1 with
    | .error .empty => reads
    | read => reads ++ [read]
  | _, _ => reads

/-- What Communications has reported. -/
def observeVerdicts (a : PipelineAction ε) (p : Pipeline δ) (verdicts : List Report) :
    List Report :=
  match a with
  | .comms => verdicts ++ commsReports p
  | _ => verdicts

end Observers

/-! ### The answers of Motion -/

section Runtime

variable [Rounding] {w v : World} {r : Option MotionCommand}

omit [Rounding] in
/-- Texts answer nothing. -/
lemma answerOf_texts (texts : List CString) : (texts.map Report.text).filterMap answerOf = [] := by
  induction texts with
  | nil => rfl
  | cons text texts ih => exact ih

/-- The sections that neither receive nor execute answer nothing. -/
lemma answers_of_ne (hreceive : ∀ i, w.task.phase ≠ .receive i)
    (hexecute : ∀ i command, w.task.phase ≠ .execute i command) :
    (motionReports w v r).filterMap answerOf = [] := by
  unfold motionReports
  cases hphase : w.task.phase with
  | receive i => exact absurd hphase (hreceive i)
  | execute i command => exact absurd hphase (hexecute i command)
  | configure =>
    dsimp only
    split_ifs <;> rfl
  | begin => exact answerOf_texts _
  | reconcile => exact answerOf_texts _
  | update =>
    rw [List.filterMap_append, List.filterMap_append, answerOf_texts]
    split_ifs <;> rfl
  | create | anchor | clock | sample | report => rfl

/-- Only a `command_bus_receive` leads to the execution of a command. -/
lemma executing_of_ne (hreceive : ∀ i, w.task.phase ≠ .receive i) :
    (motionStep w r).task.phase.executing = [] := by
  have hfollows := follows_motionStep w r
  generalize (motionStep w r).task.phase = next at hfollows ⊢
  generalize w.task.phase = phase at hfollows hreceive
  cases hfollows with
  | receive i command => exact absurd rfl (hreceive i)
  | skip h => exact absurd rfl (hreceive _)
  | report h => rcases h with rfl | rfl <;> rfl
  | _ => rfl

/-- **Step lemma.**  What a section is given is answered by the end of the next one. -/
lemma answers_motionStep (w : World) (r : Option MotionCommand) :
    w.task.phase.executing ++ observeGiven (.motion r) w [] =
      (motionReports w (motionStep w r) r).filterMap answerOf ++
        (motionStep w r).task.phase.executing := by
  cases hphase : w.task.phase with
  | receive i =>
    simp only [observeGiven, motionReports, motionStep, taskReceive, hphase, Phase.executing]
    cases r with
    | none => rfl
    | some command =>
      dsimp only [receiveReports]
      split_ifs
      · rcases nextCommand_cases i with h | h <;> simp [World.goto, h, answerOf]
      · rfl
  | execute i command =>
    have hnext : (motionStep w r).task.phase = .report i
        (if w.task.app = .idle then runtimeSafetyCommand w command
          else (.invalidState, w)).1 := by
      simp only [motionStep, taskExecute, hphase]
      rfl
    have hgiven : observeGiven (.motion r) w [] = [] := by
      cases r <;> simp [observeGiven, hphase]
    rw [hgiven, hnext]
    unfold motionReports
    rw [hphase, hnext, List.filterMap_append, answerOf_texts]
    rfl
  | _ =>
    have hreceive : ∀ i, w.task.phase ≠ .receive i := by
      intro i h
      exact absurd (hphase.symm.trans h) (by simp)
    have hexecute : ∀ i command, w.task.phase ≠ .execute i command := by
      intro i command h
      exact absurd (hphase.symm.trans h) (by simp)
    rw [answers_of_ne hreceive hexecute, executing_of_ne hreceive]
    cases r <;> simp [observeGiven, hphase, Phase.executing]

omit [Rounding] in
/-- A section appends what it is given. -/
lemma observeGiven_append (a : Action) (w : World) (given : List MotionCommand) :
    observeGiven a w given = given ++ observeGiven a w [] := by
  unfold observeGiven
  split
  · rfl
  · exact (List.append_nil given).symm

/-- **Answers.**  In every run of the runtime the answers of Motion are to the commands that it has
been given, in their order, but for the one that it executes. -/
theorem motionLog_given (env : Environment) (as : List Action) :
    Machine.watch step observeGiven (runtimeInit env) [] as =
      (motionLog env as).filterMap answerOf ++ (runtime env as).task.phase.executing := by
  induction as using List.reverseRecOn with
  | nil => rfl
  | append_singleton as a ih =>
    have hlog : motionLog env (as ++ [a]) = observeReports a (runtime env as) (motionLog env as) :=
      Machine.watch_append
    have hrun : runtime env (as ++ [a]) = step a (runtime env as) := Machine.run_append
    have hgiven : Machine.watch step observeGiven (runtimeInit env) [] (as ++ [a]) =
        observeGiven a (runtime env as) (Machine.watch step observeGiven (runtimeInit env) [] as) :=
      Machine.watch_append
    rw [hlog, hrun, hgiven, observeGiven_append, ih]
    by_cases hother : ∀ r, a ≠ .motion r
    · rw [(step_other hother).1]
      cases a with
      | motion r => exact absurd rfl (hother r)
      | _ => simp [observeGiven, observeReports]
    · push Not at hother
      obtain ⟨r, rfl⟩ := hother
      rw [observeReports, List.filterMap_append, List.append_assoc, List.append_assoc,
        answers_motionStep]
      rfl

end Runtime

/-! ### The verdicts of Communications -/

/-- What Communications has read and reported, and what Motion has received. -/
structure Dialogue where
  reads : List (Except UartError (List UInt8)) := []
  verdicts : List Report := []
  received : List MotionCommand := []

section Pipeline

variable {δ ε : Type} {driver : InputDriver δ ε} {p : Pipeline δ} {d : Dialogue}

/-- The dialogue after a step of the pipeline. -/
def observeDialogue (driver : InputDriver δ ε) (a : PipelineAction ε) (p : Pipeline δ)
    (d : Dialogue) : Dialogue where
  reads := observeReads driver a p d.reads
  verdicts := observeVerdicts a p d.verdicts
  received := observeReceived a p d.received

/-- Every read has its verdict, and what was admitted is received in its order. -/
structure Judged (p : Pipeline δ) (d : Dialogue) : Prop where
  verdicts : ∃ judged reading, d.reads = judged ++ reading ∧ p.comms.Reading reading ∧
    List.Forall₂ Verdict judged d.verdicts
  admitted : d.verdicts.filterMap admittedOf = d.received ++ p.bus.queue.items

/-- The steps that neither read nor judge. -/
lemma Judged.of_same {p' : Pipeline δ} (h : Judged p d) (hbus : p'.bus = p.bus)
    (hcomms : ∀ reading, p.comms.Reading reading → p'.comms.Reading reading) : Judged p' d := by
  obtain ⟨judged, reading, hreads, hreading, hverdicts⟩ := h.verdicts
  exact ⟨⟨judged, reading, hreads, hcomms reading hreading, hverdicts⟩, hbus ▸ h.admitted⟩

/-- A read awaits its verdict. -/
lemma Judged.drain (h : Judged p d) {i : ℕ} (hcomms : p.comms = .drain i) :
    Judged (commsTask driver p) { d with reads := observeReads driver .comms p d.reads } := by
  obtain ⟨judged, reading, hreads, hreading, hverdicts⟩ := h.verdicts
  rw [hcomms] at hreading
  obtain rfl : reading = [] := hreading
  rw [List.append_nil] at hreads
  simp only [commsTask, observeReads, hcomms]
  refine ⟨?_, h.admitted⟩
  rcases hread : (driver.tryReadLine p.input).1 with error | line
  · by_cases hempty : error = .empty
    · subst hempty
      exact ⟨judged, [], by rw [List.append_nil]; exact hreads, rfl, hverdicts⟩
    · refine ⟨judged, [.error error], ?_, ?_, hverdicts⟩
      · rw [← hreads]
        cases error <;> first | exact absurd rfl hempty | rfl
      · cases error <;> first | exact absurd rfl hempty | exact ⟨_, hempty, rfl⟩
  · exact ⟨judged, [.ok line], by rw [← hreads], rfl, hverdicts⟩

/-- A frame, or a read that failed, gets its verdict. -/
lemma Judged.verdict (h : Judged p d) {report : Report} {p' : Pipeline δ}
    (hverdict : ∀ reading, p.comms.Reading reading →
      ∃ read, reading = [read] ∧ Verdict read report)
    (hcomms : p'.comms.Reading [])
    (hbus : p'.bus.queue.items = p.bus.queue.items ++ (admittedOf report).toList) :
    Judged p' { d with verdicts := d.verdicts ++ [report] } := by
  obtain ⟨judged, reading, hreads, hreading, hverdicts⟩ := h.verdicts
  obtain ⟨read, rfl, hread⟩ := hverdict reading hreading
  refine ⟨⟨judged ++ [read], [], ?_, hcomms, ?_⟩, ?_⟩
  · rw [List.append_nil]
    exact hreads
  · exact List.rel_append hverdicts (.cons hread .nil)
  · have hadmitted : [report].filterMap admittedOf = (admittedOf report).toList := by
      cases hcommand : admittedOf report <;> simp [hcommand]
    rw [List.filterMap_append, h.admitted, hbus, hadmitted, List.append_assoc]

/-- The next read, or the end of the loop, holds nothing. -/
lemma reading_nextRead (i : ℕ) : (CommsAt.nextRead i).Reading [] := by
  unfold CommsAt.nextRead
  split_ifs <;> rfl

/-- The verdict on a frame. -/
lemma Judged.frame (h : Judged p d) {i : ℕ} {line : List UInt8} (hcomms : p.comms = .frame i line) :
    Judged (commsTask driver p) { d with verdicts := d.verdicts ++ commsReports p } := by
  obtain ⟨result, command, hparse, -⟩ := commandParse_parses line ⟨.status, 0⟩
  have hreading : ∀ {report}, Verdict (.ok line) report → ∀ reading, p.comms.Reading reading →
      ∃ read, reading = [read] ∧ Verdict read report := by
    intro report hverdict reading hreading
    rw [hcomms] at hreading
    exact ⟨_, hreading, hverdict⟩
  have hstep : commsTask driver p = { p.handleFrame line with comms := .nextRead (i + 1) } := by
    simp only [commsTask, hcomms]
  rw [hstep]
  by_cases hok : result = .ok
  · subst hok
    have hframe : p.handleFrame line = { p with bus := (commandBusSend command p.bus).2 } := by
      unfold Pipeline.handleFrame
      rw [hparse]
    have hreports : commsReports p = [.command
        (if (commandBusSend command p.bus).1 then .queued else .queueFull) command .ok] := by
      unfold commsReports
      rw [hcomms]
      dsimp only
      rw [hparse]
    rw [hreports, hframe]
    refine h.verdict (hreading ⟨.ok, command, hparse, ?_⟩) (reading_nextRead _) ?_
    · rw [if_pos rfl]
      split_ifs
      · exact Or.inl rfl
      · exact Or.inr rfl
    · dsimp only
      rw [commandBusSend_fst]
      by_cases hspace : p.bus.queue.items.length < commandQueueCapacity
      · rw [(commandBusSend_of_space command hspace).1, if_pos (decide_eq_true hspace)]
        rfl
      · rw [commandBusSend_of_full command hspace, if_neg (by simpa using hspace)]
        exact (List.append_nil _).symm
  · have hframe : p.handleFrame line = { p with parseErrors := p.parseErrors + 1 } := by
      unfold Pipeline.handleFrame
      rw [hparse]
      cases result <;> first | exact absurd rfl hok | rfl
    have hreports : commsReports p = [.command .parseError command result] := by
      unfold commsReports
      rw [hcomms]
      dsimp only
      rw [hparse]
      cases result <;> first | exact absurd rfl hok | rfl
    rw [hreports, hframe]
    refine h.verdict (hreading ⟨result, command, hparse, ?_⟩) (reading_nextRead _) ?_
    · rw [if_neg hok]
    · exact (List.append_nil _).symm

/-- A read that failed gets its verdict. -/
lemma Judged.failed (h : Judged p d) (hcomms : p.comms = .failed) :
    Judged (commsTask driver p) { d with verdicts := d.verdicts ++ commsReports p } := by
  have hreports : commsReports p = [.text (cString "ERR UART_RX")] := by
    simp only [commsReports, hcomms]
  rw [hreports]
  simp only [commsTask, hcomms]
  refine h.verdict (fun reading hreading => ?_) rfl (List.append_nil _).symm
  rw [hcomms] at hreading
  obtain ⟨error, hne, rfl⟩ := hreading
  exact ⟨_, rfl, hne, rfl⟩

/-- **Step lemma.**  Communications keeps the dialogue. -/
lemma Judged.comms (h : Judged p d) :
    Judged (commsTask driver p) (observeDialogue driver .comms p d) := by
  cases hcomms : p.comms with
  | drain i =>
    have hlog : observeDialogue driver .comms p d =
        { d with reads := observeReads driver .comms p d.reads } := by
      simp [observeDialogue, observeVerdicts, observeReceived, commsReports, hcomms]
    rw [hlog]
    exact h.drain hcomms
  | failed =>
    have hlog : observeDialogue driver .comms p d =
        { d with verdicts := d.verdicts ++ commsReports p } := by
      simp [observeDialogue, observeVerdicts, observeReceived, observeReads, hcomms]
    rw [hlog]
    exact h.failed hcomms
  | frame i line =>
    have hlog : observeDialogue driver .comms p d =
        { d with verdicts := d.verdicts ++ commsReports p } := by
      simp [observeDialogue, observeVerdicts, observeReceived, observeReads, hcomms]
    rw [hlog]
    exact h.frame hcomms
  | take =>
    have hlog : observeDialogue driver .comms p d = d := by
      simp [observeDialogue, observeVerdicts, observeReceived, observeReads, commsReports, hcomms]
    rw [hlog]
    simp only [commsTask, hcomms]
    split_ifs
    · exact h
    · exact h.of_same rfl fun reading hreading => by
        rw [hcomms] at hreading
        exact hreading
  | checkpoint | resumed =>
    have hlog : observeDialogue driver .comms p d = d := by
      simp [observeDialogue, observeVerdicts, observeReceived, observeReads, commsReports, hcomms]
    rw [hlog]
    refine h.of_same ?_ fun reading hreading => ?_
    · simp only [commsTask, hcomms]
      rfl
    · rw [hcomms] at hreading
      simp only [commsTask, hcomms]
      split_ifs <;> exact hreading
  | pending =>
    have hlog : observeDialogue driver .comms p d = d := by
      simp [observeDialogue, observeVerdicts, observeReceived, observeReads, commsReports, hcomms]
    rw [hlog]
    refine h.of_same ?_ fun reading hreading => ?_
    · simp only [commsTask, hcomms]
    · rw [hcomms] at hreading
      simp only [commsTask, hcomms]
      split_ifs <;> exact hreading
  | heartbeat | count | give | delay | parked =>
    have hlog : observeDialogue driver .comms p d = d := by
      simp [observeDialogue, observeVerdicts, observeReceived, observeReads, commsReports, hcomms]
    rw [hlog]
    refine h.of_same ?_ fun reading hreading => ?_
    · simp only [commsTask, hcomms]
    · rw [hcomms] at hreading
      simp only [commsTask, hcomms]
      exact hreading

/-- **Step lemma.**  Motion receives what was admitted. -/
lemma Judged.motion (h : Judged p d) :
    Judged (motionTaskCommands p) (observeDialogue driver .motion p d) := by
  have hlog : observeDialogue driver .motion p d =
      { d with received := observeReceived (.motion : PipelineAction ε) p d.received } := by
    simp [observeDialogue, observeVerdicts, observeReads]
  have hadmitted := h.admitted
  rw [hlog]
  unfold motionTaskCommands
  cases hmotion : p.motion with
  | receive i =>
    have hreceived : observeReceived (.motion : PipelineAction ε) p d.received =
        if i < commandLimit then d.received ++ (commandBusReceive p.bus).1.toList
        else d.received := by
      simp only [observeReceived, hmotion]
    rw [hreceived]
    dsimp only
    split_ifs
    · cases hitems : p.bus.queue.items with
      | nil =>
        rw [commandBusReceive_nil hitems]
        refine ⟨h.verdicts, ?_⟩
        rw [Option.toList_none, List.append_nil]
        exact hadmitted
      | cons command rest =>
        obtain ⟨hsome, hrest, -⟩ := commandBusReceive_cons hitems
        rcases hreceive : commandBusReceive p.bus with ⟨first, bus⟩
        rw [hreceive] at hsome hrest
        obtain rfl : first = some command := hsome
        refine ⟨h.verdicts, ?_⟩
        rw [hadmitted, hitems]
        change _ = d.received ++ [command] ++ bus.queue.items
        rw [hrest, List.append_assoc]
        rfl
    · exact ⟨h.verdicts, hadmitted⟩
  | _ =>
    have hreceived : observeReceived (.motion : PipelineAction ε) p d.received = d.received := by
      simp only [observeReceived, hmotion]
    rw [hreceived]
    exact ⟨h.verdicts, hadmitted⟩

/-- **Step lemma.**  Every step of the pipeline keeps the dialogue. -/
theorem Judged.step (h : Judged p d) (a : PipelineAction ε) :
    Judged (pipelineStep driver a p) (observeDialogue driver a p d) := by
  have hother : observeDialogue driver a p d = d → (pipelineStep driver a p).bus = p.bus →
      (∀ reading, p.comms.Reading reading → (pipelineStep driver a p).comms.Reading reading) →
      Judged (pipelineStep driver a p) (observeDialogue driver a p d) := by
    intro hlog hbus hcomms
    rw [hlog]
    exact h.of_same hbus hcomms
  cases a with
  | comms => exact h.comms
  | motion => exact h.motion
  | arrive e =>
    refine hother rfl ?_ ?_
    · cases hsignal : driver.signal e p.input <;> simp [pipelineStep, hsignal, Pipeline.notify]
    · rw [(pipelineStep_arrive_comms driver p e).1]
      exact fun _ => id
  | inputReady | requestStop => exact hother rfl rfl fun _ => id
  | timeout =>
    refine hother rfl ?_ ?_
    · change (commsTimeout p).bus = p.bus
      unfold commsTimeout
      split <;> rfl
    · change ∀ reading, _ → (commsTimeout p).comms.Reading reading
      unfold commsTimeout
      split
      next hcomms =>
        rw [hcomms]
        exact fun _ => id
      next => exact fun _ => id

/-- **Dialogue.**  In every run of the pipeline each read has its verdict, in the order of the
reads, and Motion receives the commands that were admitted, in their order. -/
theorem judged_run (driver : InputDriver δ ε) (input : δ) (as : List (PipelineAction ε)) :
    Judged (Machine.run (pipelineStep driver) { input := input } as)
      (Machine.watch (pipelineStep driver) (observeDialogue driver) { input := input } {} as) :=
  Machine.watch_invariant (P := fun _ _ => True) (I := Judged) (fun a _ _ h _ => h.step a)
    ⟨⟨[], [], rfl, rfl, .nil⟩, rfl⟩ (Machine.along_of_forall fun _ _ => trivial)

end Pipeline

end MotionFirmware
