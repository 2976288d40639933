import Mathlib.Data.UInt
import MotionFirmware.Foundation.Machine
import MotionFirmware.Rtos.CommsTask
import MotionFirmware.Rtos.WakeUp

/-!
# The command pipeline conserves frames and commands

From the frames of the host to the commands that Motion takes there are two queues, three contexts
and counters that are updated in separate critical sections.  A log keeps what the counters only
count: the accepted frames in the order of their arrival, the frame that Communications holds, what
became of each frame that it has handled, and the commands that Motion has taken.

The frames handled, the frame held and the frames waiting are at every step the accepted frames in
their order; the commands taken and those waiting are the admitted ones.  The counters of the source
count the parts of this log, modulo `2 ^ 32`.
-/

namespace MotionFirmware

/-- What became of a frame: it could not be read, it did not parse, its command was refused by a
queue with `used` commands, or its command was admitted. -/
inductive Fate where
  | unreadable
  | malformed
  | refused (command : MotionCommand) (used : ℕ)
  | admitted (command : MotionCommand)

/-- What has happened in a run. -/
structure PipelineLog where
  arrivals : List (List UInt8) := []
  hand : Option (List UInt8) := none
  handled : List (List UInt8 × Fate) := []
  consumed : List MotionCommand := []

/-- The fate of a frame that Communications handles. -/
def fateOf (line : List UInt8) (bus : CommandBus) : Fate :=
  match commandParse line ⟨.status, 0⟩ with
  | some (.ok, command) =>
    if (commandBusSend command bus).1 then .admitted command
    else .refused command bus.queue.items.length
  | _ => .malformed

/-- The frame that was held has been handled. -/
def PipelineLog.handle (l : PipelineLog) (line : List UInt8) (fate : Fate) : PipelineLog :=
  { l with handled := l.handled ++ [(line, fate)], hand := none }

/-- The log after a step: the frames that an arrival has appended to the queue, the frame that a
read takes out of it, the fate of a frame that is handled, and the command that Motion receives. -/
def observePipeline (a : PipelineAction HostEvent) (p : Pipeline HostInput) (l : PipelineLog) :
    PipelineLog :=
  match a with
  | .arrive e =>
    { l with
      arrivals := l.arrivals ++
        (HostInput.arrive e p.input).rxQueue.items.drop p.input.rxQueue.items.length }
  | .comms =>
    match p.comms with
    | .drain _ => { l with hand := p.input.rxQueue.items.head? }
    | .failed => l.hand.elim l fun line => l.handle line .unreadable
    | .frame _ line => l.handle line (fateOf line p.bus)
    | _ => l
  | .motion =>
    match p.motion with
    | .receive i =>
      if i < commandLimit then
        { l with consumed := l.consumed ++ (commandBusReceive p.bus).1.toList }
      else l
    | _ => l
  | _ => l

/-- The command of a frame that was admitted. -/
def Fate.command : Fate → Option MotionCommand
  | .admitted command => some command
  | _ => none

/-- The admitted commands: those of the frames in the order of their arrival, but without the
malformed and the refused ones. -/
def PipelineLog.admitted (l : PipelineLog) : List MotionCommand :=
  l.handled.filterMap fun handled => handled.2.command

/-- A fate is justified: a frame is malformed exactly when it does not parse, a command is the one
that was parsed, it is refused only by a full queue, and only a frame that is too long for the
interface is unreadable. -/
def Fate.Justified (line : List UInt8) : Fate → Prop
  | .unreadable => uartRxLineCapacity < line.length
  | .malformed => ∀ command, commandParse line ⟨.status, 0⟩ ≠ some (.ok, command)
  | .refused command used =>
    commandParse line ⟨.status, 0⟩ = some (.ok, command) ∧ used = commandQueueCapacity
  | .admitted command => commandParse line ⟨.status, 0⟩ = some (.ok, command)

/-- The number of frames that Communications holds. -/
def CommsAt.inHand : CommsAt → ℕ
  | .failed => 1
  | .frame _ _ => 1
  | _ => 0

/-- The number of commands that Motion has taken and not yet counted. -/
def MotionAt.inHand : MotionAt → ℕ
  | .taken _ _ => 1
  | _ => 0

/-- The command types. -/
def commandTypes : List CommandType :=
  [.moveAbs, .moveRel, .setSpeed, .home, .stop, .estop, .reset, .status, .help]

/-- The pipeline and the log agree with the conservation laws. -/
structure Conserved (p : Pipeline HostInput) (l : PipelineLog) : Prop where
  released : p.input.released = p.input.accepted + p.input.dropped
  accepted : p.input.accepted = p.parseErrors + p.uartRxErrors + p.bus.sent + p.bus.rejected +
    UInt32.ofNat p.input.rxQueue.items.length + UInt32.ofNat p.comms.inHand
  sent : p.bus.sent = p.bus.received + UInt32.ofNat p.bus.queue.items.length
  highWater : p.bus.queue.items.length ≤ p.bus.highWater.toNat ∧
    p.bus.highWater.toNat ≤ commandQueueCapacity
  byType : (commandTypes.map p.receivedByType).sum =
    p.bus.received - UInt32.ofNat p.motion.inHand
  consumed : l.consumed <+: l.admitted
  commands : l.consumed ++ p.bus.queue.items = l.admitted
  frames : l.handled.map Prod.fst ++ l.hand.toList ++ p.input.rxQueue.items = l.arrivals
  fates : ∀ handled ∈ l.handled, handled.2.Justified handled.1

/-! ### The counters and the log -/

/-- The number of frames with a fate of a kind, as a counter has it. -/
def PipelineLog.count (l : PipelineLog) (kind : Fate → Bool) : UInt32 :=
  UInt32.ofNat (l.handled.countP fun handled => kind handled.2)

/-- The frame is counted by `uart_rx_errors`. -/
def Fate.isUnreadable : Fate → Bool
  | .unreadable => true
  | _ => false

/-- The frame is counted by `parse_errors`. -/
def Fate.isMalformed : Fate → Bool
  | .malformed => true
  | _ => false

/-- The frame is counted by `rejected` of the command bus. -/
def Fate.isRefused : Fate → Bool
  | .refused _ _ => true
  | _ => false

/-- The frame is counted by `sent` of the command bus. -/
def Fate.isAdmitted : Fate → Bool
  | .admitted _ => true
  | _ => false

/-- The frame that Communications holds at a point of its loop. -/
def CommsAt.Holds : CommsAt → Option (List UInt8) → Prop
  | .failed, hand => ∃ line, hand = some line ∧ uartRxLineCapacity < line.length
  | .frame _ line, hand => hand = some line
  | _, hand => hand = none

/-- The invariant: every counter counts its part of the log. -/
structure Accounted (p : Pipeline HostInput) (l : PipelineLog) : Prop where
  released : p.input.released = p.input.accepted + p.input.dropped
  accepted : p.input.accepted = UInt32.ofNat l.arrivals.length
  frames : l.handled.map Prod.fst ++ l.hand.toList ++ p.input.rxQueue.items = l.arrivals
  holds : p.comms.Holds l.hand
  unreadable : p.uartRxErrors = l.count Fate.isUnreadable
  malformed : p.parseErrors = l.count Fate.isMalformed
  refused : p.bus.rejected = l.count Fate.isRefused
  admitted : p.bus.sent = l.count Fate.isAdmitted
  bus : p.bus.Balanced
  commands : l.consumed ++ p.bus.queue.items = l.admitted
  byType : (commandTypes.map p.receivedByType).sum + UInt32.ofNat p.motion.inHand = p.bus.received
  fates : ∀ handled ∈ l.handled, handled.2.Justified handled.1

variable {p : Pipeline HostInput} {l : PipelineLog}

/-- Every frame that is handled is counted once. -/
lemma length_handled (handled : List (List UInt8 × Fate)) :
    handled.length = (handled.countP fun x => x.2.isMalformed) +
      (handled.countP fun x => x.2.isUnreadable) + (handled.countP fun x => x.2.isAdmitted) +
      (handled.countP fun x => x.2.isRefused) := by
  induction handled with
  | nil => rfl
  | cons x xs ih =>
    obtain ⟨line, fate⟩ := x
    rw [List.length_cons, ih, List.countP_cons, List.countP_cons, List.countP_cons,
      List.countP_cons]
    cases fate <;> simp [Fate.isMalformed, Fate.isUnreadable, Fate.isAdmitted, Fate.isRefused] <;>
      omega

/-- Communications holds the one frame that its program counter says. -/
lemma CommsAt.Holds.length {c : CommsAt} {hand : Option (List UInt8)} (h : c.Holds hand) :
    hand.toList.length = c.inHand := by
  cases c with
  | failed =>
    obtain ⟨line, rfl, -⟩ := h
    rfl
  | frame i line =>
    obtain rfl : hand = some line := h
    rfl
  | _ =>
    obtain rfl : hand = none := h
    rfl

/-- The invariant gives the conservation laws. -/
theorem Accounted.conserved (h : Accounted p l) : Conserved p l where
  released := h.released
  accepted := by
    have hlength : l.arrivals.length = l.handled.length + p.comms.inHand +
        p.input.rxQueue.items.length := by
      rw [← h.frames, ← h.holds.length, List.length_append, List.length_append, List.length_map]
    rw [h.accepted, hlength, length_handled, h.malformed, h.unreadable, h.admitted, h.refused]
    unfold PipelineLog.count
    simp only [UInt32.ofNat_add]
    rw [UInt32.add_assoc, UInt32.add_comm (UInt32.ofNat p.comms.inHand), ← UInt32.add_assoc]
  sent := h.bus.sent
  highWater := ⟨h.bus.used_le_highWater, h.bus.highWater_le⟩
  byType := by
    rw [← h.byType, UInt32.add_sub_cancel]
  consumed := ⟨_, h.commands⟩
  commands := h.commands
  frames := h.frames
  fates := h.fates

lemma Accounted.start {events : List HostInputEvent} {d : HostInput}
    (hinit : hostInputInit events = some d) : Accounted { input := d } {} := by
  unfold hostInputInit at hinit
  split_ifs at hinit
  obtain rfl := Option.some.inj hinit
  exact ⟨rfl, rfl, rfl, rfl, rfl, rfl, rfl, rfl, .start, rfl, rfl, nofun⟩

/-! ### The steps -/

/-- Two pipelines with the same accounts. -/
structure SameAccounts (p p' : Pipeline HostInput) : Prop where
  input : p'.input = p.input
  bus : p'.bus = p.bus
  uartRxErrors : p'.uartRxErrors = p.uartRxErrors
  parseErrors : p'.parseErrors = p.parseErrors
  receivedByType : p'.receivedByType = p.receivedByType
  motion : p'.motion.inHand = p.motion.inHand

/-- A step that leaves the accounts alone may move Communications, with what it holds. -/
lemma Accounted.of_same {p' : Pipeline HostInput} (h : Accounted p l) (hsame : SameAccounts p p')
    (hholds : p'.comms.Holds l.hand) : Accounted p' l := by
  obtain ⟨hinput, hbus, hrx, hparse, htype, hmotion⟩ := hsame
  exact ⟨hinput ▸ h.released, hinput ▸ h.accepted, hinput ▸ h.frames, hholds, hrx ▸ h.unreadable,
    hparse ▸ h.malformed, hbus ▸ h.refused, hbus ▸ h.admitted, hbus ▸ h.bus, hbus ▸ h.commands,
    by rw [htype, hmotion, hbus]; exact h.byType, h.fates⟩

/-- An arrival appends the accepted frames to the queue and to the log. -/
lemma Accounted.arrive (h : Accounted p l) (e : HostEvent) :
    Accounted (pipelineStep hostDriver (.arrive e) p) (observePipeline (.arrive e) p l) := by
  obtain ⟨frames, haccepts, -⟩ := HostInput.arrive_accepts e p.input
  have hlog : observePipeline (.arrive e) p l = { l with arrivals := l.arrivals ++ frames } := by
    unfold observePipeline
    dsimp only
    rw [haccepts.queue, List.drop_left]
  have haccepted : (HostInput.arrive e p.input).accepted =
      UInt32.ofNat (l.arrivals ++ frames).length := by
    rw [haccepts.accepted, h.accepted, List.length_append, UInt32.ofNat_add]
  have hframes : l.handled.map Prod.fst ++ l.hand.toList ++
      (HostInput.arrive e p.input).rxQueue.items = l.arrivals ++ frames := by
    rw [haccepts.queue, ← List.append_assoc, h.frames]
  rw [hlog]
  dsimp only [pipelineStep]
  cases hostDriver.signal e p.input <;> dsimp only [Pipeline.notify] <;>
    exact ⟨haccepts.balance h.released, haccepted, hframes, h.holds, h.unreadable, h.malformed,
      h.refused, h.admitted, h.bus, h.commands, h.byType, h.fates⟩

/-- A read takes the oldest frame into the hand. -/
lemma Accounted.drain (h : Accounted p l) {i : ℕ} (hcomms : p.comms = .drain i) :
    Accounted (commsTask hostDriver p) { l with hand := p.input.rxQueue.items.head? } := by
  have hholds : l.hand = none := by
    have hat := h.holds
    rw [hcomms] at hat
    exact hat
  simp only [commsTask, hcomms]
  change Accounted { p with
    input := (uartHostTryReadLine p.input).2
    comms := .afterRead i (uartHostTryReadLine p.input).1 } _
  have hframes := h.frames
  rw [hholds, Option.toList_none, List.append_nil] at hframes
  cases hitems : p.input.rxQueue.items with
  | nil =>
    rw [uartHostTryReadLine_nil hitems, List.head?_nil, ← hholds]
    exact h.of_same ⟨rfl, rfl, rfl, rfl, rfl, rfl⟩ hholds
  | cons frame rest =>
    obtain ⟨hread, hrest⟩ := uartHostTryReadLine_cons hitems
    rw [hread, List.head?_cons]
    refine ⟨h.released, h.accepted, ?_, ?_, h.unreadable, h.malformed, h.refused, h.admitted, h.bus,
      h.commands, h.byType, h.fates⟩
    · dsimp only
      rw [hrest, ← hframes, hitems, Option.toList_some, List.append_assoc, List.singleton_append]
    · dsimp only
      by_cases hlong : uartRxLineCapacity < frame.length
      · rw [if_pos hlong]
        exact ⟨frame, rfl, hlong⟩
      · rw [if_neg hlong]
        exact rfl

/-- The log of a frame that was held and has been handled. -/
lemma handle_frames {line : List UInt8} (fate : Fate) (hhand : l.hand = some line)
    (rest : List (List UInt8)) :
    (l.handle line fate).handled.map Prod.fst ++ (l.handle line fate).hand.toList ++ rest =
      l.handled.map Prod.fst ++ l.hand.toList ++ rest := by
  rw [hhand]
  simp [PipelineLog.handle]

lemma handle_count (l : PipelineLog) (line : List UInt8) (fate : Fate) (kind : Fate → Bool) :
    (l.handle line fate).count kind = l.count kind + if kind fate then 1 else 0 := by
  unfold PipelineLog.count PipelineLog.handle
  rw [List.countP_append, UInt32.ofNat_add]
  cases hkind : kind fate <;> simp [hkind]

lemma handle_admitted (l : PipelineLog) (line : List UInt8) (fate : Fate) :
    (l.handle line fate).admitted = l.admitted ++ fate.command.toList := by
  unfold PipelineLog.admitted PipelineLog.handle
  rw [List.filterMap_append]
  cases fate <;> rfl

lemma handle_fates (h : ∀ handled ∈ l.handled, handled.2.Justified handled.1) {line : List UInt8}
    {fate : Fate} (hfate : fate.Justified line) :
    ∀ handled ∈ (l.handle line fate).handled, handled.2.Justified handled.1 := by
  intro handled hmem
  rcases List.mem_append.mp hmem with hmem | hmem
  · exact h handled hmem
  · rw [List.mem_singleton.mp hmem]
    exact hfate

/-- A read that failed is counted. -/
lemma Accounted.failed (h : Accounted p l) (hcomms : p.comms = .failed) :
    Accounted (commsTask hostDriver p) (l.hand.elim l fun line => l.handle line .unreadable) := by
  have hholds := h.holds
  rw [hcomms] at hholds
  obtain ⟨line, hhand, hlong⟩ := hholds
  simp only [commsTask, hcomms]
  rw [hhand, Option.elim_some]
  refine ⟨h.released, h.accepted, ?_, rfl, ?_, ?_, ?_, ?_, h.bus, ?_, h.byType,
    handle_fates h.fates hlong⟩
  · rw [handle_frames _ hhand]
    exact h.frames
  · rw [handle_count, ← h.unreadable]
    rfl
  · rw [handle_count, ← h.malformed]
    exact (UInt32.add_zero _).symm
  · rw [handle_count, ← h.refused]
    exact (UInt32.add_zero _).symm
  · rw [handle_count, ← h.admitted]
    exact (UInt32.add_zero _).symm
  · rw [handle_admitted, ← h.commands]
    exact (List.append_nil _).symm

/-- A frame that does not parse. -/
lemma handleFrame_malformed {line : List UInt8}
    (hparse : ∀ command, commandParse line ⟨.status, 0⟩ ≠ some (.ok, command)) :
    p.handleFrame line = { p with parseErrors := p.parseErrors + 1 } ∧
      fateOf line p.bus = .malformed := by
  unfold Pipeline.handleFrame fateOf
  constructor
  · split
    next command hok => exact absurd hok (hparse command)
    next => rfl
  · split
    next command hok => exact absurd hok (hparse command)
    next => rfl

/-- A frame that parses. -/
lemma handleFrame_ok {line : List UInt8} {command : MotionCommand}
    (hparse : commandParse line ⟨.status, 0⟩ = some (.ok, command)) :
    p.handleFrame line = { p with bus := (commandBusSend command p.bus).2 } ∧
      fateOf line p.bus = if (commandBusSend command p.bus).1 then .admitted command
        else .refused command p.bus.queue.items.length := by
  unfold Pipeline.handleFrame fateOf
  rw [hparse]
  exact ⟨rfl, rfl⟩

/-- After a frame nothing is held. -/
lemma holds_nextRead (i : ℕ) : (CommsAt.nextRead i).Holds none := by
  unfold CommsAt.nextRead
  split_ifs <;> rfl

/-- A frame that parses and finds space is admitted, one that finds none is refused, and one that
does not parse is counted. -/
lemma Accounted.frame (h : Accounted p l) {i : ℕ} {line : List UInt8}
    (hcomms : p.comms = .frame i line) :
    Accounted (commsTask hostDriver p) (l.handle line (fateOf line p.bus)) := by
  have hhand : l.hand = some line := by
    have hholds := h.holds
    rw [hcomms] at hholds
    exact hholds
  have hframes : ∀ fate, (l.handle line fate).handled.map Prod.fst ++
      (l.handle line fate).hand.toList ++ p.input.rxQueue.items = l.arrivals := by
    intro fate
    rw [handle_frames fate hhand]
    exact h.frames
  simp only [commsTask, hcomms]
  by_cases hparse : ∃ command, commandParse line ⟨.status, 0⟩ = some (.ok, command)
  · obtain ⟨command, hparse⟩ := hparse
    obtain ⟨hframe, hfate⟩ := handleFrame_ok (p := p) hparse
    rw [hframe, hfate, commandBusSend_fst]
    by_cases hspace : p.bus.queue.items.length < commandQueueCapacity
    · rw [if_pos (decide_eq_true hspace)]
      obtain ⟨hitems, hsent, hreceived, hrejected⟩ := commandBusSend_of_space command hspace
      refine ⟨h.released, h.accepted, hframes _, holds_nextRead _, ?_, ?_, ?_, ?_,
        h.bus.send command,
        ?_, ?_, handle_fates h.fates hparse⟩
      · rw [handle_count, ← h.unreadable]
        exact (UInt32.add_zero _).symm
      · rw [handle_count, ← h.malformed]
        exact (UInt32.add_zero _).symm
      · rw [handle_count, ← h.refused, hrejected]
        exact (UInt32.add_zero _).symm
      · rw [handle_count, ← h.admitted, hsent]
        rfl
      · rw [handle_admitted, ← h.commands, hitems, List.append_assoc]
        rfl
      · rw [hreceived]
        exact h.byType
    · rw [if_neg (by simpa using hspace), commandBusSend_of_full command hspace]
      have hfull : p.bus.queue.items.length = commandQueueCapacity :=
        Nat.le_antisymm p.bus.queue.bounded (Nat.le_of_not_lt hspace)
      refine ⟨h.released, h.accepted, hframes _, holds_nextRead _, ?_, ?_, ?_, ?_,
        ⟨h.bus.sent, h.bus.used_le_highWater, h.bus.highWater_le⟩, ?_, h.byType,
        handle_fates h.fates ⟨hparse, hfull⟩⟩
      · rw [handle_count, ← h.unreadable]
        exact (UInt32.add_zero _).symm
      · rw [handle_count, ← h.malformed]
        exact (UInt32.add_zero _).symm
      · rw [handle_count, ← h.refused]
        rfl
      · rw [handle_count, ← h.admitted]
        exact (UInt32.add_zero _).symm
      · rw [handle_admitted, ← h.commands]
        exact (List.append_nil _).symm
  · have hnone : ∀ command, commandParse line ⟨.status, 0⟩ ≠ some (.ok, command) :=
      fun command hok => hparse ⟨command, hok⟩
    obtain ⟨hframe, hfate⟩ := handleFrame_malformed (p := p) hnone
    rw [hframe, hfate]
    refine ⟨h.released, h.accepted, hframes _, holds_nextRead _, ?_, ?_, ?_, ?_, h.bus, ?_,
      h.byType,
      handle_fates h.fates hnone⟩
    · rw [handle_count, ← h.unreadable]
      exact (UInt32.add_zero _).symm
    · rw [handle_count, ← h.malformed]
      rfl
    · rw [handle_count, ← h.refused]
      exact (UInt32.add_zero _).symm
    · rw [handle_count, ← h.admitted]
      exact (UInt32.add_zero _).symm
    · rw [handle_admitted, ← h.commands]
      exact (List.append_nil _).symm

/-- The steps of Communications. -/
lemma Accounted.comms (h : Accounted p l) :
    Accounted (pipelineStep hostDriver .comms p) (observePipeline .comms p l) := by
  change Accounted (commsTask hostDriver p) _
  have hholds := h.holds
  unfold observePipeline
  dsimp only
  cases hcomms : p.comms with
  | drain i => exact h.drain hcomms
  | failed => exact h.failed hcomms
  | frame i line => exact h.frame hcomms
  | take =>
    rw [hcomms] at hholds
    simp only [commsTask, hcomms]
    split_ifs
    · exact h
    · exact h.of_same ⟨rfl, rfl, rfl, rfl, rfl, rfl⟩ hholds
  | checkpoint =>
    rw [hcomms] at hholds
    simp only [commsTask, hcomms]
    refine h.of_same ⟨rfl, rfl, rfl, rfl, rfl, rfl⟩ ?_
    dsimp only
    split_ifs <;> exact hholds
  | resumed value =>
    rw [hcomms] at hholds
    simp only [commsTask, hcomms]
    refine h.of_same ⟨rfl, rfl, rfl, rfl, rfl, rfl⟩ ?_
    dsimp only
    split_ifs <;> exact hholds
  | pending =>
    rw [hcomms] at hholds
    simp only [commsTask, hcomms]
    refine h.of_same ⟨rfl, rfl, rfl, rfl, rfl, rfl⟩ ?_
    dsimp only
    split_ifs <;> exact hholds
  | parked =>
    simp only [commsTask, hcomms]
    exact h
  | _ =>
    rw [hcomms] at hholds
    simp only [commsTask, hcomms]
    exact h.of_same ⟨rfl, rfl, rfl, rfl, rfl, rfl⟩ hholds

/-- Counting a command raises the sum of the counters by one. -/
lemma sum_update (f : CommandType → UInt32) (t : CommandType) :
    (commandTypes.map (Function.update f t (f t + 1))).sum = (commandTypes.map f).sum + 1 := by
  cases t <;> simp [commandTypes, Function.update] <;> grind

/-- The steps of Motion. -/
lemma Accounted.motion (h : Accounted p l) :
    Accounted (pipelineStep hostDriver .motion p) (observePipeline .motion p l) := by
  change Accounted (motionTaskCommands p) _
  have hbyType := h.byType
  unfold observePipeline
  dsimp only
  cases hmotion : p.motion with
  | checkpoint =>
    simp only [motionTaskCommands, hmotion]
    refine h.of_same ⟨rfl, rfl, rfl, rfl, rfl, ?_⟩ h.holds
    rw [hmotion]
    dsimp only
    split_ifs <;> rfl
  | receive i =>
    rw [hmotion] at hbyType
    simp only [motionTaskCommands, hmotion]
    by_cases hlimit : i < commandLimit
    · rw [if_pos hlimit, if_pos hlimit]
      cases hitems : p.bus.queue.items with
      | nil =>
        rw [commandBusReceive_nil hitems, Option.toList_none, List.append_nil]
        exact h.of_same ⟨rfl, rfl, rfl, rfl, rfl, by rw [hmotion]; rfl⟩ h.holds
      | cons command rest =>
        obtain ⟨hsome, hrest, hbus⟩ := commandBusReceive_cons hitems
        have hbalanced := h.bus.receive
        have hcommands := h.commands
        rw [hitems] at hcommands
        rcases hreceive : commandBusReceive p.bus with ⟨first, bus⟩
        rw [hreceive] at hsome hrest hbus hbalanced
        obtain rfl : first = some command := hsome
        refine ⟨h.released, h.accepted, h.frames, h.holds, h.unreadable, h.malformed, ?_, ?_,
          hbalanced, ?_, ?_, h.fates⟩
        · exact (congrArg CommandBus.rejected hbus).trans h.refused
        · exact (congrArg CommandBus.sent hbus).trans h.admitted
        · change l.consumed ++ [command] ++ bus.queue.items = l.admitted
          rw [hrest, List.append_assoc, List.singleton_append]
          exact hcommands
        · refine Eq.trans ?_ (congrArg CommandBus.received hbus).symm
          exact congrArg (· + 1) ((UInt32.add_zero _).symm.trans hbyType)
    · rw [if_neg hlimit, if_neg hlimit]
      exact h.of_same ⟨rfl, rfl, rfl, rfl, rfl, by rw [hmotion]; rfl⟩ h.holds
  | taken i command =>
    rw [hmotion] at hbyType
    simp only [motionTaskCommands, hmotion]
    refine ⟨h.released, h.accepted, h.frames, h.holds, h.unreadable, h.malformed, h.refused,
      h.admitted, h.bus, h.commands, ?_, h.fates⟩
    dsimp only
    rw [sum_update]
    exact (UInt32.add_zero _).trans hbyType
  | parked =>
    simp only [motionTaskCommands, hmotion]
    exact h

/-- Every step keeps the accounts. -/
theorem Accounted.step (h : Accounted p l) (a : PipelineAction HostEvent) :
    Accounted (pipelineStep hostDriver a p) (observePipeline a p l) := by
  cases a with
  | arrive e => exact h.arrive e
  | comms => exact h.comms
  | motion => exact h.motion
  | inputReady producer => exact h.of_same ⟨rfl, rfl, rfl, rfl, rfl, rfl⟩ h.holds
  | requestStop => exact h.of_same ⟨rfl, rfl, rfl, rfl, rfl, rfl⟩ h.holds
  | timeout =>
    have hholds := h.holds
    change Accounted (commsTimeout p) l
    unfold commsTimeout
    split
    next hcomms =>
      rw [hcomms] at hholds
      exact h.of_same ⟨rfl, rfl, rfl, rfl, rfl, rfl⟩ hholds
    next => exact h

/-- **Conservation and order.**  After a successful start of the host, whatever the producers, the
tasks and the timeout do and in whatever order: nothing is lost, duplicated or reordered, and the
counters say so at every step. -/
theorem command_pipeline_conserved {events : List HostInputEvent} {h : HostInput}
    (hinit : hostInputInit events = some h) (as : List (PipelineAction HostEvent)) :
    Conserved (Machine.run (pipelineStep hostDriver) { input := h } as)
      (Machine.watch (pipelineStep hostDriver) observePipeline { input := h } {} as) := by
  refine Accounted.conserved ?_
  exact Machine.watch_invariant (P := fun _ _ => True) (I := Accounted)
    (fun a v n hv _ => hv.step a) (.start hinit) (Machine.along_of_forall fun _ _ => trivial)

/-- Two frames that are due at the same tick. -/
def twoFrames : List HostInputEvent :=
  [⟨20, [ascii 'S', ascii 'T', ascii 'O', ascii 'P']⟩, ⟨20, [ascii 'X']⟩]

/-- The tick falls while Communications is blocked; it reads and sends, and Motion receives. -/
def stopAtTick : List (PipelineAction HostEvent) :=
  [.comms, .comms, .arrive (.tick 2), .comms, .comms, .comms, .comms, .comms, .motion, .motion]

/-- After that run the first command has been taken and the second frame waits. -/
theorem command_pipeline_conserved_stop :
    ∃ h, hostInputInit twoFrames = some h ∧
      Conserved (Machine.run (pipelineStep hostDriver) { input := h } stopAtTick)
        (Machine.watch (pipelineStep hostDriver) observePipeline { input := h } {} stopAtTick) ∧
      (Machine.watch (pipelineStep hostDriver) observePipeline { input := h } {}
        stopAtTick).consumed = [⟨.stop, 0⟩] := by
  have hinit : hostInputInit twoFrames = some { script := twoFrames, active := true } := rfl
  exact ⟨_, rfl, command_pipeline_conserved hinit stopAtTick, by decide +kernel⟩

end MotionFirmware
