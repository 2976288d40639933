import MotionFirmware.Foundation.Binary32
import MotionFirmware.Foundation.Ranking
import MotionFirmware.Rtos.Conversation

/-!
# Every command is answered in time

Motion takes two commands in a release, and the queue holds eight.  So five completed releases
answer every command that was admitted before, whatever is admitted meanwhile; in particular an
`ESTOP` that is in the queue takes effect within five releases.
-/

namespace MotionFirmware

/-- The commands that a release can still answer. -/
def Phase.slots : Phase → ℕ
  | .receive i | .execute i _ => commandLimit - i
  | .report i _ => commandLimit - (i + 1)
  | .update => 0
  | _ => commandLimit

/-- The releases that `owed` answers take at most, with the slots of the current one. -/
def releasesFor (owed slots : ℕ) : ℕ := if owed = 0 then 0 else 1 + (owed - slots + 1) / 2

section Definitions

variable {δ ε : Type}

/-- The commands that Motion can still answer before the next control update. -/
def Firmware.slots (f : Firmware δ) : ℕ :=
  match f.motion with
  | .running => f.world.task.phase.slots
  | _ => commandLimit

/-- The step is the control update that completes a release. -/
def FirmwareAction.completes (a : FirmwareAction ε) (f : Firmware δ) : Bool :=
  match a, f.motion, f.world.task.phase with
  | .motion _, .running, .update => (f.outbox .motion).empty
  | _, _, _ => false

end Definitions

/-- The commands that Motion has answered. -/
def FirmwareLog.answered (l : FirmwareLog) : List MotionCommand :=
  (l.wanted .motion).filterMap answerOf

/-- The commands that Communications has admitted. -/
def FirmwareLog.admitted (l : FirmwareLog) : List MotionCommand :=
  (l.wanted .comms).filterMap admittedOf

/-- An answer uses one slot and pays one debt. -/
lemma releasesFor_answer (owed : ℕ) {slots : ℕ} (h : 0 < slots) :
    releasesFor (owed - 1) (slots - 1) ≤ releasesFor owed slots := by
  unfold releasesFor
  split_ifs <;> omega

/-- A completed release makes room for two answers. -/
lemma releasesFor_complete (owed : ℕ) :
    releasesFor owed commandLimit ≤ releasesFor owed 0 - 1 := by
  unfold releasesFor commandLimit
  split_ifs <;> omega

variable {δ ε : Type} {f g : Firmware δ}

/-- What a step may do to the slots, with whether it completes a release and what it answers. -/
inductive Pace (f g : Firmware δ) : Bool → List MotionCommand → Prop
  | same (h : g.slots = f.slots) : Pace f g false []
  | answer (command : MotionCommand) (hslot : 0 < f.slots) (h : g.slots = f.slots - 1) :
      Pace f g false [command]
  /-- The release ends early, because there is nothing to answer. -/
  | idle (hqueue : f.pipeline.bus.queue.items = []) (hworking : f.unanswered = []) :
      Pace f g false []
  | complete (hslot : f.slots = 0) (h : g.slots = commandLimit) : Pace f g true []

variable [Rounding] {driver : InputDriver δ ε}

/-- The answers of a section. -/
lemma answered_runSection (h : (f.outbox .motion).empty = true) (received : Option MotionCommand)
    (pipeline : Pipeline δ) :
    (newReports (f.outbox .motion)
      (({ f.runSection received with pipeline := pipeline } : Firmware δ).outbox .motion)).filterMap
        answerOf ++ (motionStep f.world received).task.phase.executing =
      f.world.task.phase.executing ++ observeGiven (.motion received) f.world [] := by
  rw [answers_motionStep]
  exact congrArg (fun reports : List Report => reports.filterMap answerOf ++ _)
    (newReports_enqueue h _)

omit [Rounding] in
lemma slots_running (h : f.motion = .running) : f.slots = f.world.task.phase.slots := by
  unfold Firmware.slots
  rw [h]

omit [Rounding] in
lemma slots_of_ne (h : f.motion ≠ .running) : f.slots = commandLimit := by
  unfold Firmware.slots
  split
  · exact absurd ‹_› h
  · rfl

omit [Rounding] in
/-- The slots after the `i`-th command are those of the next one. -/
lemma slots_nextCommand {i : ℕ} (hi : i < commandLimit) :
    (nextCommand i).slots = commandLimit - (i + 1) := by
  unfold nextCommand
  unfold commandLimit at hi
  split_ifs with hnext
  · rfl
  · change 0 = 2 - (i + 1)
    omega

/-- The section that receives a command, or finds none. -/
lemma pace_receiveSection (hempty : (f.outbox .motion).empty = true) {i : ℕ}
    (hrunning : f.motion = .running) (hphase : f.world.task.phase = .receive i)
    (hmeets : f.world.task.phase.Meets f.pipeline.motion) :
    Pace f f.receiveSection false
      ((newReports (f.outbox .motion) (f.receiveSection.outbox .motion)).filterMap answerOf) := by
  have hslots : f.slots = commandLimit - i := by
    rw [slots_running hrunning, hphase]
    rfl
  rw [hphase] at hmeets
  obtain ⟨hi, hmotion | ⟨command, hmotion⟩⟩ := hmeets
  · rcases motionTaskCommands_receive hmotion hi with ⟨hnone, hitems⟩ | ⟨command, hsome, -⟩
    · have hsection : f.receiveSection =
          { f.runSection none with pipeline := motionTaskCommands f.pipeline } := by
        unfold Firmware.receiveSection
        rw [hmotion]
        dsimp only
        rw [hnone]
      have hnext : (motionStep f.world none).task.phase = .update := by
        simp only [motionStep, hphase, taskReceive, World.goto]
      have hanswers := answered_runSection hempty none (motionTaskCommands f.pipeline)
      rw [hnext, hphase] at hanswers
      have hworking : f.unanswered = [] := by
        unfold Firmware.unanswered
        rw [hphase, hmotion]
        rfl
      rw [hsection, ← List.append_nil (List.filterMap _ _)]
      exact hanswers ▸ .idle hitems hworking
    · have hsection : f.receiveSection = { f with pipeline := motionTaskCommands f.pipeline } := by
        unfold Firmware.receiveSection
        rw [hmotion]
        dsimp only
        rw [hsome]
      rw [hsection]
      change Pace f _ false ((newReports (f.outbox .motion) (f.outbox .motion)).filterMap answerOf)
      rw [newReports_self]
      exact .same rfl
  · have hsection : f.receiveSection =
        { f.runSection (some command) with pipeline := motionTaskCommands f.pipeline } := by
      unfold Firmware.receiveSection
      rw [hmotion]
    have hanswers := answered_runSection hempty (some command) (motionTaskCommands f.pipeline)
    have hgiven : observeGiven (.motion (some command)) f.world [] = [command] := by
      simp only [observeGiven, hphase, List.nil_append]
    have hstep : (motionStep f.world (some command)).task.phase =
        if command.type = .status ∨ command.type = .help then nextCommand i
        else .execute i command := by
      simp only [motionStep, hphase, taskReceive]
      split_ifs <;> rfl
    have hstage : f.receiveSection.motion = .running := by
      rw [hsection]
      change Firmware.afterSection f.world.task.phase = .running
      rw [hphase]
      rfl
    have hworld : f.receiveSection.world = motionStep f.world (some command) := by
      rw [hsection]
      rfl
    have hnext := slots_running hstage
    rw [hworld, hstep] at hnext
    rw [hgiven, hstep, hphase, ← hsection] at hanswers
    by_cases hcounted : command.type = .status ∨ command.type = .help
    · rw [if_pos hcounted] at hnext hanswers
      have hnone : (nextCommand i).executing = [] := by
        rcases nextCommand_cases i with h | h <;> rw [h] <;> rfl
      rw [hnone, List.append_nil] at hanswers
      rw [hanswers]
      refine .answer command (by omega) ?_
      rw [hnext, slots_nextCommand hi, hslots]
      omega
    · rw [if_neg hcounted] at hnext hanswers
      have hnone : (newReports (f.outbox .motion)
          (f.receiveSection.outbox .motion)).filterMap answerOf = [] := by
        have hlength := congrArg List.length hanswers
        rw [List.length_append] at hlength
        exact List.length_eq_zero_iff.mp (Nat.add_right_cancel hlength)
      rw [hnone]
      refine .same ?_
      rw [hnext, hslots]
      rfl

/-- What a section that receives nothing does to the slots, unless it is the last of a release. -/
lemma slots_runSection (hrunning : f.motion = .running)
    (hmeets : f.world.task.phase.Meets f.pipeline.motion)
    (hreceive : ∀ i, f.world.task.phase ≠ .receive i) (hupdate : f.world.task.phase ≠ .update) :
    (f.runSection none).slots = f.slots - f.world.task.phase.executing.length ∧
      f.world.task.phase.executing.length ≤ f.slots := by
  have hfollows := follows_motionStep f.world none
  have hstage : (f.runSection none).motion = Firmware.afterSection f.world.task.phase := rfl
  have hworld : (f.runSection none).world = motionStep f.world none := rfl
  rw [slots_running hrunning]
  cases hphase : f.world.task.phase with
  | receive i => exact absurd hphase (hreceive i)
  | update => exact absurd hphase hupdate
  | anchor =>
    rw [hphase] at hstage
    rw [slots_of_ne (by rw [hstage]; exact nofun)]
    exact ⟨rfl, Nat.zero_le _⟩
  | report i result =>
    rw [hphase] at hstage hmeets
    have hnext : (motionStep f.world none).task.phase = nextCommand i := by
      simp only [motionStep, hphase, taskReport]
    rw [slots_running hstage, hworld, hnext, slots_nextCommand hmeets.1]
    exact ⟨rfl, Nat.zero_le _⟩
  | execute i command =>
    rw [hphase] at hstage hmeets hfollows
    rw [slots_running hstage, hworld]
    have hi := hmeets.1
    generalize (motionStep f.world none).task.phase = next at hfollows
    cases hfollows with
    | execute i command result =>
      change commandLimit - (i + 1) = commandLimit - i - 1 ∧ 1 ≤ commandLimit - i
      omega
  | _ =>
    rw [hphase] at hstage hfollows
    rw [slots_running hstage, hworld]
    generalize (motionStep f.world none).task.phase = next at hfollows
    cases hfollows <;> exact ⟨rfl, Nat.zero_le _⟩

/-- A section of a release. -/
lemma pace_motionSection (hempty : (f.outbox .motion).empty = true) (hrunning : f.motion = .running)
    (hmeets : f.world.task.phase.Meets f.pipeline.motion) (now : UInt32) :
    Pace f f.motionSection ((.motion now : FirmwareAction ε).completes f)
      ((newReports (f.outbox .motion) (f.motionSection.outbox .motion)).filterMap answerOf) := by
  have hnone : observeGiven (.motion none) f.world [] = [] := by
    unfold observeGiven
    split
    next h _ => exact absurd h nofun
    next => rfl
  unfold Firmware.motionSection
  cases hphase : f.world.task.phase with
  | receive i =>
    have hcompletes : (.motion now : FirmwareAction ε).completes f = false := by
      simp only [FirmwareAction.completes, hrunning, hphase]
    rw [hcompletes]
    exact pace_receiveSection hempty hrunning hphase hmeets
  | update =>
    have hcompletes : (.motion now : FirmwareAction ε).completes f = true := by
      simp only [FirmwareAction.completes, hrunning, hphase, hempty]
    have hanswers := answered_runSection hempty none (Firmware.leaveLoop f.pipeline)
    rw [hnone, hphase] at hanswers
    have hzero := (List.append_eq_nil_iff.mp hanswers).1
    dsimp only
    rw [hcompletes, hzero]
    refine .complete ?_ (slots_of_ne ?_)
    · rw [slots_running hrunning, hphase]
      rfl
    · change Firmware.afterSection f.world.task.phase ≠ .running
      rw [hphase]
      exact nofun
  | _ =>
    have hreceive : ∀ i, f.world.task.phase ≠ .receive i := by
      intro i h
      exact absurd (hphase.symm.trans h) nofun
    have hupdate : f.world.task.phase ≠ .update := by
      rw [hphase]
      exact nofun
    have hcompletes : (.motion now : FirmwareAction ε).completes f = false := by
      simp only [FirmwareAction.completes, hrunning, hphase]
    have hanswers := answered_runSection hempty none f.pipeline
    rw [hnone, executing_of_ne hreceive, List.append_nil, List.append_nil] at hanswers
    obtain ⟨hslots, hroom⟩ := slots_runSection hrunning hmeets hreceive hupdate
    change Pace f (f.runSection none) _
      ((newReports (f.outbox .motion) ((f.runSection none).outbox .motion)).filterMap answerOf)
    rw [hcompletes]
    rw [hphase] at hanswers hslots hroom
    rw [hanswers]
    first
      | exact .answer _ hroom hslots
      | exact .same hslots

/-- **Step lemma.**  Every step keeps the pace. -/
theorem pace_step (driver : InputDriver δ ε) (hf : f.Aligned) (a : FirmwareAction ε) :
    Pace f (firmwareStep driver a f) (a.completes f)
      ((newReports (f.outbox .motion) ((firmwareStep driver a f).outbox .motion)).filterMap
        answerOf) := by
  have hidle : ∀ {completes : Bool} {g : Firmware δ} {reports : List Report}, completes = false →
      reports = [] → g.slots = f.slots → Pace f g completes (reports.filterMap answerOf) := by
    rintro completes g reports rfl rfl hslots
    exact .same hslots
  by_cases hother : ∀ now, a ≠ .motion now
  · have hsame : SameMotion f (firmwareStep driver a f) := sameMotion_step hother f
    have hreporter : a.reporter ≠ some .motion := by
      cases a with
      | motion now => exact absurd rfl (hother now)
      | _ => exact nofun
    have hcompletes : a.completes f = false := by
      cases a with
      | motion now => exact absurd rfl (hother now)
      | _ => rfl
    refine hidle hcompletes (newReports_of_ne hreporter f) ?_
    unfold Firmware.slots
    rw [hsame.stage, hsame.phase]
  · push Not at hother
    obtain ⟨now, rfl⟩ := hother
    unfold firmwareStep reportOr
    cases hempty : (f.outbox .motion).empty with
    | false =>
      have hcompletes : (.motion now : FirmwareAction ε).completes f = false := by
        unfold FirmwareAction.completes
        split
        · exact hempty
        · rfl
      exact hidle hcompletes (newReports_report now hempty .motion) rfl
    | true =>
      dsimp only
      rw [if_pos rfl]
      by_cases hrunning : f.motion = .running
      · unfold Firmware.Aligned at hf
        rw [hrunning] at hf
        unfold Firmware.motionTaskStep
        rw [hrunning]
        exact pace_motionSection hempty hrunning hf now
      · have hcompletes : (.motion now : FirmwareAction ε).completes f = false := by
          unfold FirmwareAction.completes
          split
          next hstage _ => exact absurd hstage hrunning
          next => rfl
        have hslots := slots_of_ne hrunning
        unfold Firmware.Aligned at hf
        unfold Firmware.motionTaskStep
        cases hstage : f.motion with
        | running => exact absurd hstage hrunning
        | heartbeat =>
          refine hidle hcompletes ?_ (Eq.trans (slots_of_ne ?_) hslots.symm)
          · dsimp only
            rw [beat_outbox]
            exact newReports_self _
          · exact nofun
        | checkpoint =>
          rw [hstage] at hf
          refine hidle hcompletes (newReports_self _) (Eq.trans ?_ hslots.symm)
          unfold Firmware.slots
          dsimp only
          rw [hf.1]
          cases f.pipeline.stopping <;> rfl
        | wait | disable =>
          refine hidle hcompletes (newReports_self _) (Eq.trans (slots_of_ne ?_) hslots.symm)
          exact nofun
        | parked => exact hidle hcompletes (newReports_self _) rfl

/-! ### Owed answers -/

/-- The releases that it takes at most until the first `target` admitted commands are answered. -/
def releasesLeft (target : ℕ) (v : Firmware δ × FirmwareLog) : ℕ :=
  releasesFor (target - v.2.answered.length) v.1.slots

/-- The firmware and its log after some continuation of a run. -/
def Reached (driver : InputDriver δ ε) (env : Environment) (input : δ)
    (as : List (FirmwareAction ε)) (v : Firmware δ × FirmwareLog) : Prop :=
  ∃ cs, v = (firmware driver env input (as ++ cs), firmwareLog driver env input (as ++ cs))

lemma Reached.step {env : Environment} {input : δ} {as : List (FirmwareAction ε)}
    {v : Firmware δ × FirmwareLog} (h : Reached driver env input as v) (a : FirmwareAction ε) :
    Reached driver env input as
      (Machine.watchStep (firmwareStep driver) (observeFirmware driver) a v) := by
  obtain ⟨cs, rfl⟩ := h
  refine ⟨cs ++ [a], ?_⟩
  rw [← List.append_assoc, firmwareLog_append, firmware_append]
  rfl

/-- What a step answers. -/
lemma answered_observe (driver : InputDriver δ ε) (a : FirmwareAction ε) (f : Firmware δ)
    (l : FirmwareLog) :
    (observeFirmware driver a f l).answered = l.answered ++
      (newReports (f.outbox .motion) ((firmwareStep driver a f).outbox .motion)).filterMap
        answerOf := by
  unfold FirmwareLog.answered observeFirmware
  exact List.filterMap_append

/-- What a step admits. -/
lemma admitted_observe (a : FirmwareAction ε) (f : Firmware δ) (l : FirmwareLog) :
    l.admitted <+: (observeFirmware driver a f l).admitted := by
  unfold FirmwareLog.admitted observeFirmware
  rw [List.filterMap_append]
  exact List.prefix_append _ _

/-- The admitted commands of a run are the first of those of every continuation. -/
lemma admitted_initial (driver : InputDriver δ ε) (env : Environment) (input : δ)
    (as cs : List (FirmwareAction ε)) :
    (firmwareLog driver env input as).admitted <+:
      (firmwareLog driver env input (as ++ cs)).admitted := by
  induction cs using List.reverseRecOn with
  | nil =>
    rw [List.append_nil]
  | append_singleton cs a ih =>
    rw [← List.append_assoc, firmwareLog_append]
    exact ih.trans (admitted_observe a _ _)

/-- Every completed release lowers the number of those that are left. -/
lemma ranks_answers (driver : InputDriver δ ε) (env : Environment) (input : δ)
    (as : List (FirmwareAction ε)) :
    Machine.Ranks (Machine.watchStep (firmwareStep driver) (observeFirmware driver))
      (fun a v => a.completes v.1)
      (releasesLeft (firmwareLog driver env input as).admitted.length)
      (Reached driver env input as) where
  keeps a _ hv := hv.step a
  descends a v hv := by
    obtain ⟨cs, rfl⟩ := hv
    have hadmitted := (admitted_initial driver env input as cs).length_le
    have heq := admitted_firmware driver env input (as ++ cs)
    have hpace := pace_step driver (aligned_firmware driver env input (as ++ cs)) a
    have hanswered := answered_observe driver a (firmware driver env input (as ++ cs))
      (firmwareLog driver env input (as ++ cs))
    unfold releasesLeft Machine.watchStep
    dsimp only
    rw [hanswered, List.length_append]
    generalize a.completes (firmware driver env input (as ++ cs)) = completes at hpace ⊢
    generalize (newReports _ _).filterMap answerOf = answers at hpace ⊢
    cases hpace with
    | same h =>
      rw [h]
      exact Nat.le_refl _
    | answer command hslot h =>
      rw [h, List.length_singleton, ← Nat.sub_sub]
      exact releasesFor_answer _ hslot
    | idle hqueue hworking =>
      have hnone : (firmwareLog driver env input as).admitted.length -
          (firmwareLog driver env input (as ++ cs)).answered.length = 0 := by
        have hall : (firmwareLog driver env input (as ++ cs)).admitted =
            (firmwareLog driver env input (as ++ cs)).answered := by
          refine heq.trans ?_
          rw [hqueue, hworking, List.append_nil, List.append_nil]
          rfl
        rw [← hall]
        omega
      rw [List.length_nil, Nat.add_zero, hnone]
      exact Nat.zero_le _
    | complete hslot h =>
      rw [h, hslot]
      exact releasesFor_complete _

omit [Rounding] in
/-- While Motion works on a command it has a slot for its answer. -/
lemma slots_of_unanswered (hf : f.Aligned) (h : f.unanswered ≠ []) : 0 < f.slots := by
  unfold Firmware.unanswered at h
  unfold Firmware.Aligned at hf
  by_cases hrunning : f.motion = .running
  · rw [slots_running hrunning]
    rw [hrunning] at hf
    dsimp only at hf
    generalize f.world.task.phase = phase at hf h
    cases phase with
    | receive i | execute i =>
      have hi := hf.1
      change 0 < commandLimit - i
      omega
    | report i =>
      rw [hf.2] at h
      exact absurd rfl h
    | update =>
      rcases hf with hplace | hplace
      all_goals
        rw [hplace] at h
        exact absurd rfl h
    | _ => decide
  · rw [slots_of_ne hrunning]
    decide

/-- Nine answers may be owed, the last one with a slot in the current release: five releases. -/
lemma releasesLeft_le (driver : InputDriver δ ε) (env : Environment) (input : δ)
    (as : List (FirmwareAction ε)) :
    releasesLeft (firmwareLog driver env input as).admitted.length
      (firmware driver env input as, firmwareLog driver env input as) ≤ 5 := by
  have haligned := aligned_firmware driver env input as
  have hlength := congrArg List.length (admitted_firmware driver env input as)
  have hone := unanswered_length haligned
  have hslots := slots_of_unanswered haligned
  have hcapacity := (firmware driver env input as).pipeline.bus.queue.bounded
  change (firmwareLog driver env input as).admitted.length =
    ((firmwareLog driver env input as).answered ++ _ ++ _).length at hlength
  rw [List.length_append, List.length_append] at hlength
  unfold commandQueueCapacity at hcapacity
  unfold releasesLeft releasesFor
  dsimp only
  by_cases hworking : (firmware driver env input as).unanswered = []
  · rw [hworking, List.length_nil] at hlength
    split_ifs <;> omega
  · have hroom := hslots hworking
    split_ifs <;> omega

/-- What Motion has answered is the first part of what was admitted. -/
lemma answered_initial (driver : InputDriver δ ε) (env : Environment) (input : δ)
    (as : List (FirmwareAction ε)) :
    (firmwareLog driver env input as).answered <+: (firmwareLog driver env input as).admitted := by
  have heq := admitted_firmware driver env input as
  rw [List.append_assoc] at heq
  exact ⟨_, heq.symm⟩

/-- Five completed releases answer what was admitted before. -/
lemma admitted_initial_answered (driver : InputDriver δ ε) (env : Environment) (input : δ)
    (as bs : List (FirmwareAction ε))
    (h : 5 ≤ Machine.count (firmwareStep driver) FirmwareAction.completes
      (firmware driver env input as) bs) :
    (firmwareLog driver env input as).admitted <+:
      (firmwareLog driver env input (as ++ bs)).answered := by
  have hstart : Reached driver env input as
      (firmware driver env input as, firmwareLog driver env input as) :=
    ⟨[], by rw [List.append_nil]⟩
  have hcount : releasesLeft (firmwareLog driver env input as).admitted.length
      (firmware driver env input as, firmwareLog driver env input as) ≤
        Machine.count (Machine.watchStep (firmwareStep driver) (observeFirmware driver))
          (fun a v => a.completes v.1)
          (firmware driver env input as, firmwareLog driver env input as) bs := by
    rw [Machine.count_watchStep]
    exact (releasesLeft_le driver env input as).trans h
  have hzero := (ranks_answers driver env input as).rank_eq_zero hstart hcount
  have hlog : (Machine.run (Machine.watchStep (firmwareStep driver) (observeFirmware driver))
      (firmware driver env input as, firmwareLog driver env input as) bs).2 =
        firmwareLog driver env input (as ++ bs) := Machine.watch_append.symm
  have hlength : (firmwareLog driver env input as).admitted.length ≤
      (firmwareLog driver env input (as ++ bs)).answered.length := by
    unfold releasesLeft releasesFor at hzero
    rw [hlog] at hzero
    split_ifs at hzero
    · omega
    · omega
  exact List.prefix_of_prefix_length_le (admitted_initial driver env input as bs)
    (answered_initial driver env input (as ++ bs)) hlength

/-- **Bounded response.**  After five completed releases of Motion, every command that had been
admitted before is answered, each once and in the order of the admissions. -/
theorem commands_answered (driver : InputDriver δ ε) (env : Environment) (input : δ)
    (as bs : List (FirmwareAction ε))
    (h : 5 ≤ Machine.count (firmwareStep driver) FirmwareAction.completes
      (firmware driver env input as) bs) :
    ∃ later, (firmwareLog driver env input (as ++ bs)).answered =
      (firmwareLog driver env input as).admitted ++ later := by
  obtain ⟨later, hlater⟩ := admitted_initial_answered driver env input as bs h
  exact ⟨later, hlater.symm⟩

/-- The host at rest, in binary32 arithmetic. -/
def restingHost (as : List (FirmwareAction HostEvent)) : Firmware HostInput :=
  @firmware Binary32.rounding _ _ hostDriver standstill { script := [], active := true } as

/-- The application starts, and an `ESTOP` is submitted and admitted. -/
def queuedEstop : List (FirmwareAction HostEvent) :=
  List.replicate 30 (.motion 0) ++ [.arrive (.submit 0 (literal "ESTOP")), .inputReady 0] ++
    List.replicate 7 (.comms 0)

/-- Sixty steps of Motion, among which are five completed releases. -/
def fiveReleases : List (FirmwareAction HostEvent) := List.replicate 60 (.motion 0)

omit [Rounding] in
/-- The releases are completed. -/
lemma count_fiveReleases : 5 ≤ Machine.count (@firmwareStep Binary32.rounding _ _ hostDriver)
    FirmwareAction.completes (restingHost queuedEstop) fiveReleases := by decide +kernel

omit [Rounding] in
/-- The queued `ESTOP` is answered. -/
theorem commands_answered_estop : ∃ later,
    (@firmwareLog _ _ Binary32.rounding hostDriver standstill { script := [], active := true }
      (queuedEstop ++ fiveReleases)).answered =
      (@firmwareLog _ _ Binary32.rounding hostDriver standstill { script := [], active := true }
        queuedEstop).admitted ++ later :=
  @commands_answered _ _ Binary32.rounding hostDriver standstill { script := [], active := true }
    queuedEstop fiveReleases count_fiveReleases

/-! ### Emergency stops -/

omit [Rounding] in
/-- A step is at most one action of the runtime. -/
lemma worldLabels_cases (a : FirmwareAction ε) (f : Firmware δ) :
    worldLabels a f = [] ∨ ∃ b, worldLabels a f = [b] := by
  have hbeat : ∀ id, f.beatLabels id = [] ∨ ∃ b, f.beatLabels id = [b] := by
    intro id
    unfold Firmware.beatLabels
    split_ifs
    · exact Or.inr ⟨_, rfl⟩
    · exact Or.inl rfl
  cases a with
  | motion now =>
    unfold worldLabels
    dsimp only
    split_ifs
    · unfold Firmware.motionLabels
      split
      · unfold Firmware.sectionLabels
        split
        · split
          · exact Or.inr ⟨_, rfl⟩
          · split
            · exact Or.inl rfl
            · exact Or.inr ⟨_, rfl⟩
        · exact Or.inr ⟨_, rfl⟩
      · exact hbeat .motion
      · exact Or.inr ⟨_, rfl⟩
      · exact Or.inl rfl
    · exact Or.inl rfl
  | safety now =>
    unfold worldLabels
    dsimp only
    split_ifs
    · split
      · exact hbeat .safety
      · exact Or.inr ⟨_, rfl⟩
      · exact Or.inl rfl
    · exact Or.inl rfl
  | comms now =>
    unfold worldLabels
    dsimp only
    split_ifs
    · split
      · exact hbeat .comms
      · exact Or.inl rfl
    · exact Or.inl rfl
  | _ => exact Or.inl rfl

/-- The section that answers an `ESTOP` has latched it, once the application is ready. -/
lemma estop_of_report {w : World} {r : Option MotionCommand} {command : MotionCommand}
    (happ : w.task.app = .idle) (htype : command.type = .estop)
    (h : command ∈ (motionReports w (motionStep w r) r).filterMap answerOf) :
    (motionStep w r).safety.state = .estop := by
  cases hphase : w.task.phase with
  | receive i =>
    have hreports : motionReports w (motionStep w r) r = receiveReports r := by
      unfold motionReports
      rw [hphase]
    rw [hreports] at h
    unfold receiveReports at h
    cases r with
    | none => exact absurd h (by simp)
    | some received =>
      dsimp only at h
      split_ifs at h with hcounted
      · obtain rfl : command = received := by simpa [answerOf] using h
        rw [htype] at hcounted
        exact absurd hcounted (by simp)
      · exact absurd h (by simp)
  | execute i executed =>
    have hanswers := answers_motionStep w r
    have hgiven : observeGiven (.motion r) w [] = [] := by
      cases r <;> simp [observeGiven, hphase]
    rw [hgiven, hphase, List.append_nil] at hanswers
    have hmem : command ∈ (Phase.execute i executed).executing := by
      rw [hanswers]
      exact List.mem_append_left _ h
    obtain rfl : command = executed := List.mem_singleton.mp hmem
    have hstep : motionStep w r = taskExecute w i command := by
      unfold motionStep
      rw [hphase]
    rw [hstep]
    unfold taskExecute runtimeSafetyCommand commandEstop
    rw [if_pos happ, if_pos htype]
    simp [World.goto]
  | _ =>
    rw [answers_of_ne (fun i hi => absurd (hphase.symm.trans hi) (by simp))
      fun i c hi => absurd (hphase.symm.trans hi) (by simp)] at h
    exact absurd h (by simp)

/-- The application is ready for commands. -/
def World.Ready (w : World) : Prop := w.task.app = .idle ∧ w.task.phase ≠ .create

omit [Rounding] in
/-- No section leads back to the start of Motion. -/
lemma Phase.Follows.ne_create {p q : Phase} (h : p.Follows q) : q ≠ .create := by
  cases h with
  | skip h => rcases h with rfl | rfl <;> exact nofun
  | report h => rcases h with rfl | rfl <;> exact nofun
  | _ => exact nofun

/-- The application stays ready. -/
lemma World.Ready.step {w : World} (h : w.Ready) (a : Action) : (step a w).Ready := by
  by_cases hother : ∀ r, a ≠ .motion r
  · unfold World.Ready
    rw [(step_other hother).1]
    exact h
  · push Not at hother
    obtain ⟨r, rfl⟩ := hother
    refine ⟨?_, (follows_motionStep w r).ne_create⟩
    obtain ⟨happ, hcreate⟩ := h
    simp only [MotionFirmware.step]
    cases hphase : w.task.phase with
    | create => exact absurd hphase hcreate
    | configure =>
      simp only [motionStep, hphase]
      unfold taskConfigure
      split
      · exact happ
      · exact happ
    | begin =>
      simp only [motionStep, hphase]
      unfold taskBegin
      rw [happ]
      exact happ
    | reconcile =>
      have htask : (if w.task.sampled then w else sampleFailed w).task = w.task := by
        split_ifs <;> simp
      simpa [motionStep, hphase, taskReconcile, World.goto, htask] using happ
    | receive i =>
      simp only [motionStep, hphase]
      unfold taskReceive
      split
      · exact happ
      · dsimp only
        split_ifs <;> exact happ
    | execute i command =>
      have htask : (if w.task.app = .idle then runtimeSafetyCommand w command
          else (.invalidState, w)).2.task = w.task := by
        rw [if_pos happ]
        simp
      simpa [motionStep, hphase, taskExecute, World.goto, htask] using happ
    | update => simpa [motionStep, hphase, taskUpdate, publishRelease] using happ
    | anchor | clock | sample | report =>
      simp only [motionStep, hphase]
      exact happ

/-- A reachable application that is `IDLE` is ready. -/
lemma ready_runtime (env : Environment) (as : List Action)
    (h : (runtime env as).task.app = .idle) : (runtime env as).Ready := by
  refine ⟨h, fun hcreate => ?_⟩
  have hinvariant : (runtime env as).task.phase = .create → (runtime env as).task.app = .boot :=
    Machine.run_invariant_of_forall
      (I := fun w : World => w.task.phase = .create → w.task.app = .boot)
      (fun a w hw hnext => by
        by_cases hother : ∀ r, a ≠ .motion r
        · rw [(step_other hother).1] at hnext ⊢
          exact hw hnext
        · push Not at hother
          obtain ⟨r, rfl⟩ := hother
          exact absurd hnext (follows_motionStep w r).ne_create)
      fun _ => rfl
  rw [hinvariant hcreate] at h
  exact absurd h nofun

/-- The application of the firmware stays ready. -/
lemma ready_firmware (driver : InputDriver δ ε) (env : Environment) (input : δ)
    (as cs : List (FirmwareAction ε))
    (h : (firmware driver env input as).world.task.app = .idle) :
    (firmware driver env input (as ++ cs)).world.Ready := by
  induction cs using List.reverseRecOn with
  | nil =>
    rw [List.append_nil, world_firmware] at *
    exact ready_runtime env _ h
  | append_singleton cs a ih =>
    rw [← List.append_assoc, firmware_append]
    rw [world_step a (motor_initialized driver env input (as ++ cs))]
    exact Machine.run_invariant_of_forall (I := World.Ready) (fun b w hw => hw.step b) ih

/-- A step that answers an `ESTOP` has latched it. -/
lemma estop_of_answered {a : FirmwareAction ε} {command : MotionCommand}
    (hmotor : f.world.io.motor.initialized = true) (hready : f.world.Ready)
    (htype : command.type = .estop)
    (h : command ∈ (newReports (f.outbox .motion)
      ((firmwareStep driver a f).outbox .motion)).filterMap answerOf) :
    (firmwareStep driver a f).world.safety.state = .estop := by
  have hreports := reports_step driver a f []
  rw [List.nil_append] at hreports
  rw [hreports] at h
  rw [world_step a hmotor]
  rcases worldLabels_cases a f with hnone | ⟨b, hlabel⟩
  · rw [hnone] at h
    exact absurd h nofun
  · rw [hlabel] at h ⊢
    cases b with
    | motion r => exact estop_of_report hready.1 htype h
    | _ => exact absurd h nofun

/-- **Emergency stops are served.**  An `ESTOP` that Motion works on, or that waits in the queue,
while the application is ready is latched before five releases are completed, and the motor is off
then. -/
theorem estop_latched (driver : InputDriver δ ε) (env : Environment) (input : δ)
    (as bs : List (FirmwareAction ε)) {command : MotionCommand}
    (hready : (firmware driver env input as).world.task.app = .idle)
    (hwaiting : command ∈ (firmware driver env input as).unanswered ++
      (firmware driver env input as).pipeline.bus.queue.items)
    (htype : command.type = .estop)
    (h : 5 ≤ Machine.count (firmwareStep driver) FirmwareAction.completes
      (firmware driver env input as) bs) :
    ∃ cs ds, bs = cs ++ ds ∧
      (firmware driver env input (as ++ cs)).world.safety.state = .estop ∧
      (firmware driver env input (as ++ cs)).world.io.motor.output = 0 := by
  obtain ⟨before, after, hsplit, hlength⟩ : ∃ before after,
      (firmwareLog driver env input (as ++ bs)).answered = before ++ command :: after ∧
        (firmwareLog driver env input as).answered.length ≤ before.length := by
    obtain ⟨later, hlater⟩ := admitted_initial_answered driver env input as bs h
    obtain ⟨left, right, hparts⟩ := List.append_of_mem hwaiting
    refine ⟨(firmwareLog driver env input as).answered ++ left, right ++ later, ?_, ?_⟩
    · have hadmitted : (firmwareLog driver env input as).admitted =
          (firmwareLog driver env input as).answered ++ (left ++ command :: right) := by
        rw [← hparts, ← List.append_assoc]
        exact admitted_firmware driver env input as
      rw [← hlater, hadmitted]
      simp only [List.append_assoc, List.cons_append]
    · rw [List.length_append]
      exact Nat.le_add_right _ _
  have hlog : ∀ cs, (Machine.run (Machine.watchStep (firmwareStep driver) (observeFirmware driver))
      (firmware driver env input as, firmwareLog driver env input as) cs) =
        (firmware driver env input (as ++ cs), firmwareLog driver env input (as ++ cs)) := by
    intro cs
    refine Prod.ext ?_ Machine.watch_append.symm
    rw [Machine.run_watchStep_fst]
    exact Machine.run_append.symm
  have hentry : (fun v : Firmware δ × FirmwareLog => v.2.answered)
      (Machine.run (Machine.watchStep (firmwareStep driver) (observeFirmware driver))
        (firmware driver env input as, firmwareLog driver env input as) bs) =
          before ++ command :: after := by
    rw [hlog]
    exact hsplit
  have hextends : ∀ (a : FirmwareAction ε) (v : Firmware δ × FirmwareLog), True →
      v.2.answered <+:
        (Machine.watchStep (firmwareStep driver) (observeFirmware driver) a v).2.answered := by
    intro a v _
    change v.2.answered <+: (observeFirmware driver a v.1 v.2).answered
    rw [answered_observe driver]
    exact List.prefix_append _ _
  obtain ⟨cs, a, ds, rfl, hold, hnew⟩ := Machine.exists_step_of_log (I := fun _ => True)
    (fun v : Firmware δ × FirmwareLog => v.2.answered) (fun _ _ _ => trivial) hextends trivial
    hentry hlength
  rw [hlog] at hold hnew
  change _ <+: (observeFirmware driver a _ _).answered at hnew
  rw [answered_observe driver] at hnew
  obtain ⟨rest, rfl⟩ := hold
  dsimp only at hnew
  rw [List.append_assoc, List.prefix_append_right_inj] at hnew
  have hstep : firmware driver env input (as ++ (cs ++ [a])) =
      firmwareStep driver a (firmware driver env input (as ++ cs)) := by
    rw [← List.append_assoc, firmware_append]
  have hestop := estop_of_answered (motor_initialized driver env input (as ++ cs))
    (ready_firmware driver env input as cs hready) htype
    (hnew.subset (List.mem_append_right _ (List.mem_singleton_self command)))
  refine ⟨cs ++ [a], ds, by simp, ?_, ?_⟩
  · rw [hstep]
    exact hestop
  · rw [hstep.symm, world_firmware] at hestop
    rw [world_firmware]
    refine (gateSafe_runtime env _).output_of_latched ?_
    rw [hestop]
    exact nofun

omit [Rounding] in
/-- The queued `ESTOP` is latched. -/
theorem estop_latched_queued : ∃ cs ds, fiveReleases = cs ++ ds ∧
    (restingHost (queuedEstop ++ cs)).world.safety.state = .estop ∧
    (restingHost (queuedEstop ++ cs)).world.io.motor.output = 0 :=
  @estop_latched _ _ Binary32.rounding hostDriver standstill { script := [], active := true }
    queuedEstop fiveReleases ⟨.estop, 0⟩ (by decide +kernel) (by decide +kernel) rfl
    count_fiveReleases

end MotionFirmware
