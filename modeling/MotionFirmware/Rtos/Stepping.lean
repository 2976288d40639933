import MotionFirmware.Rtos.Service
import MotionFirmware.Rtos.StopRanks

/-!
# Stepped operation

With `runtime_set_stepped_motion` a harness runs Motion and Safety one release at a time.
`runtime_step_motion` and `runtime_step_safety` notify their task and wait for it; the task waits
for a notification in `runtime_motion_begin` or `runtime_safety_begin`, and gives one to
`step_owner` in `runtime_motion_end` or `runtime_safety_end`.  The harness is any number of tasks,
each a program counter over the statements of the two functions and of `runtime_request_stop`.

A run of the stepped firmware is a run of the firmware, in which Motion and Safety wait at the top
of their loops.
-/

namespace MotionFirmware

/-- The tasks that are stepped. -/
inductive Target where
  | motion
  | safety
  deriving DecidableEq

/-- The reports of a stepped task. -/
def Target.reporter : Target → Reporter
  | .motion => .motion
  | .safety => .safety

/-- Where a task of the harness is: outside, before it reads `step_owner`, before it sets it, before
it notifies the target, in `ulTaskNotifyTake`, and before the two notifications of a stop. -/
inductive CallerAt where
  | outside
  | owner (t : Target)
  | claim (t : Target)
  | give (t : Target)
  | take (t : Target)
  | stopMotion
  | stopSafety
  deriving DecidableEq

/-- The stepped firmware: the notification values of the harness and of the targets, and which
target has returned from its `ulTaskNotifyTake` and not passed its checkpoint. -/
structure Stepped (δ : Type) where
  firmware : Firmware δ
  stepOwner : Option ℕ := none
  place : ℕ → CallerAt := fun _ => .outside
  notified : ℕ → ℕ := fun _ => 0
  tokens : Target → ℕ := fun _ => 0
  through : Target → Bool := fun _ => false

/-- The steps: of the firmware, of a task of the harness that calls `runtime_step_motion`,
`runtime_step_safety` or `runtime_request_stop` or proceeds in it, and the expiry of its wait. -/
inductive SteppedAction (ε : Type) where
  | task (a : FirmwareAction ε)
  | call (who : ℕ) (t : Target)
  | requestStop (who : ℕ)
  | proceed (who : ℕ)
  | expire (who : ℕ)

namespace Firmware

variable {δ : Type}

/-- The target is at the top of its loop. -/
def begins (f : Firmware δ) : Target → Bool
  | .motion => f.motion = .checkpoint ∧ (f.outbox .motion).empty
  | .safety => f.safety = .checkpoint ∧ (f.outbox .safety).empty

/-- The target is at the end of its loop. -/
def ends (f : Firmware δ) : Target → Bool
  | .motion => f.motion = .wait ∧ (f.outbox .motion).empty
  | .safety => f.safety = .wait ∧ (f.outbox .safety).empty

end Firmware

/-- The target that a step of the firmware is of. -/
def FirmwareAction.target {ε : Type} : FirmwareAction ε → Option Target
  | .motion _ => some .motion
  | .safety _ => some .safety
  | _ => none

namespace Stepped

variable {δ : Type}

/-- `xTaskNotifyGive` to a target. -/
def giveTarget (t : Target) (s : Stepped δ) : Stepped δ :=
  { s with tokens := Function.update s.tokens t (s.tokens t + 1) }

/-- `xTaskNotifyGive(step_owner)`. -/
def giveOwner (s : Stepped δ) : Stepped δ :=
  match s.stepOwner with
  | some who => { s with notified := Function.update s.notified who (s.notified who + 1) }
  | none => s

/-- A task of the harness goes on to another statement. -/
def goto (who : ℕ) (place : CallerAt) (s : Stepped δ) : Stepped δ :=
  { s with place := Function.update s.place who place }

/-- The first statement of `runtime_step_motion` or `runtime_step_safety`. -/
def call (who : ℕ) (t : Target) (s : Stepped δ) : Stepped δ :=
  if s.place who = .outside ∧ s.firmware.pipeline.stopping = false then s.goto who (.owner t) else s

/-- `ulTaskNotifyTake` of the harness returns. -/
def resume (who : ℕ) (s : Stepped δ) : Stepped δ :=
  { s.goto who .outside with notified := Function.update s.notified who 0 }

/-- The next statement of a task of the harness. -/
def proceed (who : ℕ) (s : Stepped δ) : Stepped δ :=
  match s.place who with
  | .outside => s
  | .owner t =>
    if s.stepOwner ≠ none ∧ s.stepOwner ≠ some who then s.goto who .outside
    else s.goto who (.claim t)
  | .claim t => { s.goto who (.give t) with stepOwner := some who }
  | .give t => (s.goto who (.take t)).giveTarget t
  | .take _ => if s.notified who = 0 then s else s.resume who
  | .stopMotion => (s.goto who .stopSafety).giveTarget .motion
  | .stopSafety => (s.goto who .outside).giveTarget .safety

/-- The wait of a task of the harness expires. -/
def expire (who : ℕ) (s : Stepped δ) : Stepped δ :=
  match s.place who with
  | .take _ => s.resume who
  | _ => s

/-- The target waits for a notification. -/
def waits (t : Target) (s : Stepped δ) : Bool := s.firmware.begins t && !s.through t

end Stepped

section Steps

variable [Rounding] {δ ε : Type} (driver : InputDriver δ ε)

/-- A step of a target: the wait at the top of its loop, or a step of the firmware, which at the end
of the loop begins with the notification of the owner. -/
def targetStep (t : Target) (a : FirmwareAction ε) (s : Stepped δ) : Stepped δ :=
  if s.waits t then
    if s.tokens t = 0 then s
    else
      { s with
        tokens := Function.update s.tokens t 0
        through := Function.update s.through t true }
  else
    let given := if s.firmware.ends t then s.giveOwner else s
    { given with
      firmware := firmwareStep driver a s.firmware
      through := if s.firmware.begins t then Function.update s.through t false else s.through }

/-- The stepped firmware after a step.  A stop is requested by the harness. -/
def steppedStep (a : SteppedAction ε) (s : Stepped δ) : Stepped δ :=
  match a with
  | .task (.motion now) => targetStep driver .motion (.motion now) s
  | .task (.safety now) => targetStep driver .safety (.safety now) s
  | .task .requestStop => s
  | .task a => { s with firmware := firmwareStep driver a s.firmware }
  | .call who t => s.call who t
  | .requestStop who =>
    if s.place who = .outside then
      { s.goto who .stopMotion with firmware := firmwareStep driver .requestStop s.firmware }
    else s
  | .proceed who => s.proceed who
  | .expire who => s.expire who

/-- `runtime_init`, and `runtime_set_stepped_motion(true)`. -/
def steppedInit (env : Environment) (input : δ) : Stepped δ where
  firmware := firmwareInit env input

/-- The stepped firmware after the given steps. -/
def stepped (env : Environment) (input : δ) (as : List (SteppedAction ε)) : Stepped δ :=
  Machine.run (steppedStep driver) (steppedInit env input) as

end Steps

/-! ### Runs of the firmware -/

section Projection

variable {δ ε : Type}

/-- What a step is to the firmware. -/
def firmwareLabels (a : SteppedAction ε) (s : Stepped δ) : List (FirmwareAction ε) :=
  match a with
  | .task (.motion now) => if s.waits .motion then [] else [.motion now]
  | .task (.safety now) => if s.waits .safety then [] else [.safety now]
  | .task .requestStop => []
  | .task a => [a]
  | .requestStop who => if s.place who = .outside then [.requestStop] else []
  | _ => []

variable [Rounding] {driver : InputDriver δ ε} {s : Stepped δ}

omit [Rounding] in
lemma proceed_firmware (who : ℕ) (s : Stepped δ) : (s.proceed who).firmware = s.firmware := by
  unfold Stepped.proceed
  cases s.place who with
  | owner t | take t =>
    dsimp only
    split_ifs <;> rfl
  | _ => rfl

lemma targetStep_firmware (t : Target) (a : FirmwareAction ε) (s : Stepped δ) :
    (targetStep driver t a s).firmware =
      Machine.run (firmwareStep driver) s.firmware (if s.waits t then [] else [a]) := by
  unfold targetStep
  split_ifs <;> rfl

/-- Every step is, to the firmware, the list of steps that it is labelled with. -/
theorem projects_firmware (driver : InputDriver δ ε) :
    Machine.Projects (steppedStep driver) (firmwareStep driver) Stepped.firmware firmwareLabels
      (fun _ => True) where
  keeps _ _ _ := trivial
  image a s _ := by
    cases a with
    | task a =>
      cases a with
      | motion now => exact targetStep_firmware .motion (.motion now) s
      | safety now => exact targetStep_firmware .safety (.safety now) s
      | _ => rfl
    | call who t =>
      unfold steppedStep Stepped.call
      dsimp only
      split_ifs <;> rfl
    | requestStop who =>
      unfold steppedStep firmwareLabels
      dsimp only
      split_ifs <;> rfl
    | proceed who => exact proceed_firmware who s
    | expire who =>
      unfold steppedStep Stepped.expire
      dsimp only
      cases s.place who <;> rfl

/-- The steps of the firmware in a run of the stepped firmware. -/
def firmwareTrace (driver : InputDriver δ ε) (env : Environment) (input : δ)
    (as : List (SteppedAction ε)) : List (FirmwareAction ε) :=
  Machine.trace (steppedStep driver) firmwareLabels (steppedInit env input) as

/-- A run of the stepped firmware is a run of the firmware. -/
theorem firmware_stepped (driver : InputDriver δ ε) (env : Environment) (input : δ)
    (as : List (SteppedAction ε)) :
    (stepped driver env input as).firmware =
      firmware driver env input (firmwareTrace driver env input as) :=
  (projects_firmware driver).run_eq trivial as

end Projection

/-! ### The turns of a target -/

/-- Where a target is: before its loop, at the top of it, between its checkpoint and the end of its
work, behind that, or suspended. -/
inductive Turn where
  | starting
  | top
  | release
  | done
  | stopped
  deriving DecidableEq

/-- The section is one before the loop of Motion. -/
def Phase.starts : Phase → Bool
  | .create | .configure | .anchor => true
  | _ => false

/-- The turn of a target. -/
def Firmware.turn {δ : Type} (f : Firmware δ) : Target → Turn
  | .motion =>
    match f.motion with
    | .running => if f.world.task.phase.starts then .starting else .release
    | .heartbeat | .wait => .done
    | .checkpoint => .top
    | .disable | .parked => .stopped
  | .safety =>
    match f.safety with
    | .checkpoint => .top
    | .heartbeat | .evaluate => .release
    | .wait => .done
    | .parked => .stopped

/-- The step is the control update of Motion, or the evaluation of Safety. -/
def FirmwareAction.finishes {δ ε : Type} (t : Target) (a : FirmwareAction ε) (f : Firmware δ) :
    Bool :=
  match t, a with
  | .motion, a => a.completes f
  | .safety, .safety _ => f.safety = .evaluate ∧ (f.outbox .safety).empty
  | .safety, _ => false

/-- A step of a target: whether it passes the top of its loop, finishes its work, and leaves the end
of the loop, and its turns before and after. -/
inductive Turn.Next (stopping : Bool) : (passes finishes leaves : Bool) → Turn → Turn → Prop
  | stay (turn : Turn) : Next stopping false false false turn turn
  | start : Next stopping false false false .starting .top
  | enter (h : stopping = false) : Next stopping true false false .top .release
  | stop (h : stopping = true) : Next stopping true false false .top .stopped
  | finish : Next stopping false true false .release .done
  | leave : Next stopping false false true .done .top

section Turns

variable {δ ε : Type} [Rounding] {driver : InputDriver δ ε} {f : Firmware δ}

omit [Rounding] in
lemma Phase.Follows.starts {p q : Phase} (h : p.Follows q) :
    (p.starts = false → q.starts = false) ∧ (p.starts = true → p ≠ .anchor → q.starts = true) := by
  cases h with
  | skip h => rcases h with rfl | rfl <;> simp [Phase.starts]
  | report h => rcases h with rfl | rfl <;> simp [Phase.starts]
  | _ => simp [Phase.starts]

/-- A section of Motion takes a command, or is a section of the release. -/
lemma motionSection_moves (h : f.motion = .running) :
    (f.motionSection.motion = .running ∧ f.motionSection.world = f.world ∧
        ∃ i, f.world.task.phase = .receive i) ∨
      (f.motionSection.motion = Firmware.afterSection f.world.task.phase ∧
        f.world.task.phase.Follows f.motionSection.world.task.phase) := by
  unfold Firmware.motionSection
  cases hphase : f.world.task.phase with
  | receive i =>
    dsimp only
    unfold Firmware.receiveSection
    have hafter : ∀ received, (f.runSection received).motion = Firmware.afterSection (.receive i) ∧
        (Phase.receive i).Follows (f.runSection received).world.task.phase := by
      intro received
      unfold Firmware.runSection
      dsimp only
      rw [← hphase]
      exact ⟨rfl, follows_motionStep f.world received⟩
    cases f.pipeline.motion with
    | taken j command => exact Or.inr (hafter (some command))
    | _ =>
      dsimp only
      split
      · exact Or.inl ⟨h, rfl, i, rfl⟩
      · exact Or.inr (hafter none)
  | _ =>
    have hfollows := follows_motionStep f.world none
    rw [hphase] at hfollows
    exact Or.inr ⟨congrArg Firmware.afterSection hphase, hfollows⟩

/-- A step of Motion in a release. -/
lemma turn_motionSection (hrunning : f.motion = .running) (stopping : Bool) :
    Turn.Next stopping false (decide (f.world.task.phase = .update)) false (f.turn .motion)
      (f.motionSection.turn .motion) := by
  have hturn : f.turn .motion = if f.world.task.phase.starts then .starting else .release := by
    unfold Firmware.turn
    rw [hrunning]
  rw [hturn]
  rcases motionSection_moves hrunning with ⟨hstage, hworld, i, hphase⟩ | ⟨hstage, hfollows⟩
  · have hnext : f.motionSection.turn .motion = .release := by
      unfold Firmware.turn
      rw [hstage, hworld, hphase]
      rfl
    rw [hnext, hphase]
    exact .stay .release
  · by_cases hanchor : f.world.task.phase = .anchor
    · have hnext : f.motionSection.turn .motion = .top := by
        unfold Firmware.turn
        rw [hstage, hanchor]
        rfl
      rw [hnext, hanchor]
      exact .start
    by_cases hupdate : f.world.task.phase = .update
    · have hnext : f.motionSection.turn .motion = .done := by
        unfold Firmware.turn
        rw [hstage, hupdate]
        rfl
      rw [hnext, hupdate]
      exact .finish
    · have hafter : Firmware.afterSection f.world.task.phase = .running := by
        generalize f.world.task.phase = phase at hanchor hupdate
        cases phase <;> first | rfl | contradiction
      have hnext : f.motionSection.turn .motion =
          if f.motionSection.world.task.phase.starts then .starting else .release := by
        unfold Firmware.turn
        rw [hstage, hafter]
      have hsame : f.motionSection.world.task.phase.starts = f.world.task.phase.starts := by
        cases hstarts : f.world.task.phase.starts with
        | false => exact hfollows.starts.1 hstarts
        | true => exact hfollows.starts.2 hstarts hanchor
      rw [hnext, hsame, decide_eq_false hupdate]
      exact .stay _

/-- A step of Motion. -/
lemma turn_motion (hf : f.Aligned) (now : UInt32) :
    Turn.Next f.pipeline.stopping (f.begins .motion)
      (FirmwareAction.finishes .motion (.motion now : FirmwareAction ε) f) (f.ends .motion)
      (f.turn .motion) ((firmwareStep driver (.motion now) f).turn .motion) := by
  cases hempty : (f.outbox .motion).empty with
  | false =>
    have hfinishes :
        FirmwareAction.finishes .motion (.motion now : FirmwareAction ε) f = false := by
      simp only [FirmwareAction.finishes, FirmwareAction.completes, hempty]
      split <;> rfl
    have hstep : firmwareStep driver (.motion now) f = f.report .motion now := by
      simp only [firmwareStep, reportOr, hempty]
      rfl
    rw [hfinishes, hstep]
    simp only [Firmware.begins, Firmware.ends, hempty, and_false, decide_false, Bool.false_eq_true]
    exact .stay _
  | true =>
    have hstep : firmwareStep driver (.motion now) f = f.motionTaskStep := by
      simp only [firmwareStep, reportOr, hempty, if_true]
    rw [hstep]
    have hflags : ∀ stage, f.motion = stage → stage ≠ .running →
        FirmwareAction.finishes .motion (.motion now : FirmwareAction ε) f = false := by
      intro stage hstage hne
      simp only [FirmwareAction.finishes, FirmwareAction.completes, hstage]
      cases stage <;> first | rfl | contradiction
    unfold Firmware.motionTaskStep
    cases hstage : f.motion with
    | running =>
      have hfinishes : FirmwareAction.finishes .motion (.motion now : FirmwareAction ε) f =
          decide (f.world.task.phase = .update) := by
        simp only [FirmwareAction.finishes, FirmwareAction.completes, hstage, hempty]
        cases f.world.task.phase <;> rfl
      have hsection := turn_motionSection hstage f.pipeline.stopping
      rw [hfinishes]
      simpa [Firmware.begins, Firmware.ends, hstage] using hsection
    | heartbeat =>
      rw [hflags _ hstage (by simp)]
      simpa [Firmware.begins, Firmware.ends, Firmware.turn, hstage] using Turn.Next.stay .done
    | wait =>
      rw [hflags _ hstage (by simp)]
      simpa [Firmware.begins, Firmware.ends, Firmware.turn, hstage, hempty] using Turn.Next.leave
    | checkpoint =>
      rw [hflags _ hstage (by simp)]
      unfold Firmware.Aligned at hf
      rw [hstage] at hf
      cases hstop : f.pipeline.stopping with
      | false =>
        simpa [Firmware.begins, Firmware.ends, Firmware.turn, hstage, hempty, hf.1, Phase.starts]
          using Turn.Next.enter rfl
      | true =>
        simpa [Firmware.begins, Firmware.ends, Firmware.turn, hstage, hempty]
          using Turn.Next.stop rfl
    | disable =>
      rw [hflags _ hstage (by simp)]
      simpa [Firmware.begins, Firmware.ends, Firmware.turn, hstage] using Turn.Next.stay .stopped
    | parked =>
      rw [hflags _ hstage (by simp)]
      simpa [Firmware.begins, Firmware.ends, Firmware.turn, hstage] using Turn.Next.stay .stopped

/-- A step of Safety. -/
lemma turn_safety (f : Firmware δ) (now : UInt32) :
    Turn.Next f.pipeline.stopping (f.begins .safety)
      (FirmwareAction.finishes .safety (.safety now : FirmwareAction ε) f) (f.ends .safety)
      (f.turn .safety) ((firmwareStep driver (.safety now) f).turn .safety) := by
  cases hempty : (f.outbox .safety).empty with
  | false =>
    have hstep : firmwareStep driver (.safety now) f = f.report .safety now := by
      simp only [firmwareStep, reportOr, hempty]
      rfl
    rw [hstep]
    simp only [Firmware.begins, Firmware.ends, FirmwareAction.finishes, hempty, and_false,
      decide_false, Bool.false_eq_true]
    exact .stay _
  | true =>
    have hstep : firmwareStep driver (.safety now) f = f.safetyStep := by
      simp only [firmwareStep, reportOr, hempty, if_true]
    rw [hstep]
    unfold Firmware.safetyStep
    cases hstage : f.safety with
    | checkpoint =>
      cases hstop : f.pipeline.stopping with
      | false =>
        simpa [Firmware.begins, Firmware.ends, FirmwareAction.finishes, Firmware.turn, hstage,
          hempty] using Turn.Next.enter rfl
      | true =>
        simpa [Firmware.begins, Firmware.ends, FirmwareAction.finishes, Firmware.turn, hstage,
          hempty] using Turn.Next.stop rfl
    | heartbeat =>
      simpa [Firmware.begins, Firmware.ends, FirmwareAction.finishes, Firmware.turn, hstage]
        using Turn.Next.stay .release
    | evaluate =>
      simpa [Firmware.begins, Firmware.ends, FirmwareAction.finishes, Firmware.turn, hstage,
        hempty] using Turn.Next.finish
    | wait =>
      simpa [Firmware.begins, Firmware.ends, FirmwareAction.finishes, Firmware.turn, hstage,
        hempty] using Turn.Next.leave
    | parked =>
      simpa [Firmware.begins, Firmware.ends, FirmwareAction.finishes, Firmware.turn, hstage]
        using Turn.Next.stay .stopped

/-- The other steps of the firmware are no step of the target. -/
structure SameTurn (t : Target) (f g : Firmware δ) : Prop where
  turn : g.turn t = f.turn t
  begins : g.begins t = f.begins t
  ends : g.ends t = f.ends t

lemma sameTurn_step {t : Target} {a : FirmwareAction ε} (h : a.target ≠ some t) (f : Firmware δ) :
    SameTurn t f (firmwareStep driver a f) := by
  cases t with
  | motion =>
    have hother : ∀ now, a ≠ .motion now := by
      rintro now rfl
      exact h rfl
    have hsame : SameMotion f (firmwareStep driver a f) := sameMotion_step hother f
    have houtbox : (firmwareStep driver a f).outbox .motion = f.outbox .motion := by
      refine firmwareStep_outbox ?_ f
      cases a with
      | motion now => exact absurd rfl (hother now)
      | _ => simp [FirmwareAction.reporter]
    constructor
    · unfold Firmware.turn
      rw [hsame.stage, hsame.phase]
    · unfold Firmware.begins
      rw [hsame.stage, houtbox]
    · unfold Firmware.ends
      rw [hsame.stage, houtbox]
  | safety =>
    have hother : ∀ now, a ≠ .safety now := by
      rintro now rfl
      exact h rfl
    have hstage : (firmwareStep driver a f).safety = f.safety := firmwareStep_safety hother f
    have houtbox : (firmwareStep driver a f).outbox .safety = f.outbox .safety := by
      refine firmwareStep_outbox ?_ f
      cases a with
      | safety now => exact absurd rfl (hother now)
      | _ => simp [FirmwareAction.reporter]
    constructor
    · unfold Firmware.turn
      rw [hstage]
    · unfold Firmware.begins
      rw [hstage, houtbox]
    · unfold Firmware.ends
      rw [hstage, houtbox]

/-- The step of a target. -/
def Target.action (t : Target) (now : UInt32) : FirmwareAction ε :=
  match t with
  | .motion => .motion now
  | .safety => .safety now

/-- **Step lemma.**  What a step of a target does to its turn. -/
theorem turn_step (hf : f.Aligned) (t : Target) (now : UInt32) :
    Turn.Next f.pipeline.stopping (f.begins t)
      (FirmwareAction.finishes t (t.action now : FirmwareAction ε) f) (f.ends t) (f.turn t)
      ((firmwareStep driver (t.action now) f).turn t) := by
  cases t with
  | motion => exact turn_motion hf now
  | safety => exact turn_safety f now

end Turns

end MotionFirmware
