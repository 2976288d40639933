import MotionFirmware.Control.AxisRuns

/-!
# A move forgets the past

Two controllers with one configuration that rest at the same sample differ only in what earlier
moves, stops, failures and homes have left behind: the count of completed moves, the homing record,
the old target, error and outputs, the dwell counter and the history of the PID controller.  An
accepted motion overwrites all of these except the first two, which no later call reads; so from
there on the two controllers run in lockstep, provided their motors answer alike.
-/

namespace MotionFirmware

/-- The drivers answer the controller alike: the motors agree in all that decides the result of a
request, and the encoders report the same counts from now on. -/
structure Peripherals.Alike (p q : Peripherals) : Prop where
  initialized : q.motor.initialized = p.motor.initialized
  inhibited : q.motor.inhibited = p.motor.inhibited
  negativeBlocked : q.motor.negativeBlocked = p.motor.negativeBlocked
  counts : ∀ n, { q with rawReads := q.rawReads + n }.encoderGetCount =
    { p with rawReads := p.rawReads + n }.encoderGetCount

namespace Peripherals.Alike

variable {p q : Peripherals}

lemma encoderGetCount (h : p.Alike q) : q.encoderGetCount = p.encoderGetCount := h.counts 0

lemma motorDisable (h : p.Alike q) : p.motorDisable.Alike q.motorDisable :=
  ⟨h.initialized, h.inhibited, h.negativeBlocked, h.counts⟩

lemma afterEncoder (h : p.Alike q) : p.afterEncoder.Alike q.afterEncoder := by
  refine ⟨h.initialized, h.inhibited, h.negativeBlocked, fun n => ?_⟩
  have hnext := h.counts (1 + n)
  rwa [← Nat.add_assoc, ← Nat.add_assoc] at hnext

/-- A request is answered alike. -/
lemma motorSetOutput (h : p.Alike q) (duty : FloatValue) :
    (MotionFirmware.motorSetOutput q.motor duty).1 =
        (MotionFirmware.motorSetOutput p.motor duty).1 ∧
      { p with motor := (MotionFirmware.motorSetOutput p.motor duty).2 }.Alike
        { q with motor := (MotionFirmware.motorSetOutput q.motor duty).2 } := by
  refine ⟨?_, ?_, ?_, ?_, h.counts⟩
  · unfold MotionFirmware.motorSetOutput
    rw [h.initialized, h.inhibited, h.negativeBlocked]
    split_ifs <;> rfl
  · rw [motorSetOutput_initialized, motorSetOutput_initialized, h.initialized]
  · rw [motorSetOutput_inhibited, motorSetOutput_inhibited, h.inhibited]
  · rw [motorSetOutput_negativeBlocked, motorSetOutput_negativeBlocked, h.negativeBlocked]

end Peripherals.Alike

/-- Two encoders at which one counter stands still report the same counts. -/
lemma counts_of_standstill {p q : Peripherals} {raw : UInt32}
    (hp : p.env.rawCount = fun _ => some raw) (hq : q.env.rawCount = fun _ => some raw)
    (hoffset : q.referenceOffset = p.referenceOffset) (n : ℕ) :
    { q with rawReads := q.rawReads + n }.encoderGetCount =
      { p with rawReads := p.rawReads + n }.encoderGetCount := by
  simp only [Peripherals.encoderGetCount, Peripherals.rawCount, hp, hq, hoffset]

/-- The controller with another count of completed moves and another homing record. -/
def MotionController.relabel (m : MotionController) (k : UInt32) (record : HomingSnapshot) :
    MotionController :=
  { m with data := { m.data with completedMoves := m.data.completedMoves + k, homing := record } }

/-- The axes differ in the count of completed moves and in the homing record only, as far as the
controllers can tell. -/
structure Axis.Twin (k : UInt32) (record : HomingSnapshot) (x y : Axis) : Prop where
  io : x.io.Alike y.io
  motion : y.motion = x.motion.relabel k record

variable {k : UInt32} {record : HomingSnapshot} {x y : Axis} {m : MotionController}

/-- Failures keep twins. -/
lemma Axis.Twin.fail (h : x.Twin k record y) : (fail x).Twin k record (fail y) := by
  refine ⟨h.io.motorDisable, ?_⟩
  have hsame : y.motion.initialized = x.motion.initialized := by rw [h.motion]; rfl
  unfold MotionFirmware.fail
  rw [hsame]
  cases x.motion.initialized with
  | false => exact h.motion
  | true => rw [if_pos rfl, if_pos rfl, h.motion]; rfl

lemma halt_relabel (m : MotionController) :
    (m.relabel k record).halt = m.halt.relabel k record := by
  unfold MotionController.halt MotionController.dropDemand MotionController.relabel
  dsimp only
  split_ifs <;> rfl

variable [Rounding] {dt : FloatValue}

/-- The dwell part reads neither the count nor the record. -/
lemma updated_relabel (m : MotionController) :
    (m.relabel k record).updated = m.updated.relabel k record := by
  have hstate : (m.relabel k record).withError.data.state = m.withError.data.state := rfl
  have hcycles : (m.relabel k record).withError.config.dwellCycles =
      m.withError.config.dwellCycles := rfl
  have hnext : (m.relabel k record).withError.nextStable = m.withError.nextStable := rfl
  unfold MotionController.updated MotionController.dwell
  rw [hstate, hcycles, hnext]
  by_cases hdwell : m.withError.data.state = .moving ∨ m.withError.data.state = .stopping
  · rw [if_pos hdwell, if_pos hdwell]
    by_cases hdone : m.withError.config.dwellCycles ≤ m.withError.nextStable
    · rw [if_pos hdone, if_pos hdone]
      have hcount :
          (if m.withError.data.state = .moving then m.withError.data.completedMoves + k + 1
            else m.withError.data.completedMoves + k) =
          (if m.withError.data.state = .moving then m.withError.data.completedMoves + 1
            else m.withError.data.completedMoves) + k := by
        split_ifs
        · rw [UInt32.add_assoc, UInt32.add_comm k, UInt32.add_assoc]
        · rfl
      have hmoves : (m.relabel k record).withError.data.completedMoves =
          m.withError.data.completedMoves + k := rfl
      rw [hmoves, hcount]
      rfl
    · rw [if_neg hdone, if_neg hdone]
      rfl
  · rw [if_neg hdwell, if_neg hdwell]
    rfl

/-- Samples of twins. -/
lemma Axis.Twin.motionSample (h : x.Twin k record y) (dt : FloatValue) :
    (motionSample y dt).1 = (motionSample x dt).1 ∧
      (motionSample x dt).2.Twin k record (motionSample y dt).2 := by
  have hread : ({ x with io := x.io.afterEncoder } : Axis).Twin k record
      { y with io := y.io.afterEncoder } := ⟨h.io.afterEncoder, h.motion⟩
  have hinit : y.motion.initialized = x.motion.initialized := by rw [h.motion]; rfl
  unfold MotionFirmware.motionSample
  rw [hinit, h.io.encoderGetCount]
  split_ifs with hinput
  · exact ⟨rfl, h.fail⟩
  cases x.io.encoderGetCount with
  | none => exact ⟨rfl, hread.fail⟩
  | some count =>
    have hbad : y.motion.badCount count dt = x.motion.badCount count dt := by rw [h.motion]; rfl
    dsimp only
    rw [hbad]
    split_ifs
    · exact ⟨rfl, hread.fail⟩
    · exact ⟨rfl, h.io.afterEncoder, by rw [h.motion]; rfl⟩

/-- Commands of twins. -/
lemma Axis.Twin.motionCommand (h : x.Twin k record y) (command : MotionCommand) :
    (motionCommand y command).1 = (motionCommand x command).1 ∧
      (motionCommand x command).2.Twin k record (motionCommand y command).2 := by
  have hinit : y.motion.initialized = x.motion.initialized := by rw [h.motion]; rfl
  have hvalid : y.motion.data.feedbackValid = x.motion.data.feedbackValid := by rw [h.motion]; rfl
  have hstate : y.motion.data.state = x.motion.data.state := by rw [h.motion]; rfl
  have htarget : motionTarget y.motion command = motionTarget x.motion command := by
    rw [h.motion]; rfl
  have hrange : y.motion.outOfRange (motionTarget x.motion command) =
      x.motion.outOfRange (motionTarget x.motion command) := by rw [h.motion]; rfl
  unfold MotionFirmware.motionCommand
  rw [hinit, hvalid, hstate, htarget, hrange]
  split_ifs
  · exact ⟨rfl, h⟩
  · exact ⟨rfl, h.io.motorDisable, by rw [h.motion, halt_relabel]⟩
  · exact ⟨rfl, h⟩
  · exact ⟨rfl, h⟩
  · exact ⟨rfl, h⟩
  · exact ⟨rfl, h.io, by rw [h.motion]; rfl⟩

/-- Drives of twins. -/
lemma Axis.Twin.motionDrive (h : x.Twin k record y) (dt : FloatValue) :
    (motionDrive y dt).1 = (motionDrive x dt).1 ∧
      (motionDrive x dt).2.Twin k record (motionDrive y dt).2 := by
  have hstep : y.motion.pidStep dt = x.motion.pidStep dt := by rw [h.motion]; rfl
  unfold MotionFirmware.motionDrive
  rw [hstep]
  cases x.motion.pidStep dt with
  | none => exact ⟨rfl, h.fail⟩
  | some r =>
    obtain ⟨hresult, hio⟩ := h.io.motorSetOutput r.1
    have hdriven : ({ io := { x.io with motor := (motorSetOutput x.io.motor r.1).2 }
                      motion := x.motion.withOutput r.1 r.2 } : Axis).Twin k record
        { io := { y.io with motor := (motorSetOutput y.io.motor r.1).2 }
          motion := y.motion.withOutput r.1 r.2 } := ⟨hio, by rw [h.motion]; rfl⟩
    dsimp only
    rw [hresult]
    split_ifs
    · exact ⟨rfl, hdriven⟩
    · exact ⟨rfl, hdriven.fail⟩

/-- Updates of twins. -/
lemma Axis.Twin.motionUpdate (h : x.Twin k record y) (dt : FloatValue) :
    (motionUpdate y dt).1 = (motionUpdate x dt).1 ∧
      (motionUpdate x dt).2.Twin k record (motionUpdate y dt).2 := by
  have hinit : y.motion.initialized = x.motion.initialized := by rw [h.motion]; rfl
  have hvalid : y.motion.data.feedbackValid = x.motion.data.feedbackValid := by rw [h.motion]; rfl
  have hupdated : ({ x with motion := x.motion.updated } : Axis).Twin k record
      { y with motion := y.motion.updated } := ⟨h.io, by rw [h.motion, updated_relabel]⟩
  have hstate : y.motion.updated.data.state = x.motion.updated.data.state := by
    rw [h.motion, updated_relabel]; rfl
  unfold MotionFirmware.motionUpdate
  rw [hinit, hvalid]
  dsimp only
  rw [hstate]
  split_ifs
  · exact ⟨rfl, h.fail⟩
  · exact hupdated.motionDrive dt
  · exact ⟨rfl, h.io.motorDisable, by rw [motionRest, hupdated.motion]; rfl⟩

/-- **Lockstep.**  Twins return the same at every call, and stay twins. -/
theorem Axis.Twin.perform (h : x.Twin k record y) (call : MotionCall) :
    call.result y = call.result x ∧ (call.step x).Twin k record (call.step y) := by
  cases call with
  | sample dt =>
    obtain ⟨hresult, htwin⟩ := h.motionSample dt
    exact ⟨congrArg CallResult.returned hresult, htwin⟩
  | command c =>
    obtain ⟨hresult, htwin⟩ := h.motionCommand c
    exact ⟨congrArg CallResult.commanded hresult, htwin⟩
  | update dt =>
    obtain ⟨hresult, htwin⟩ := h.motionUpdate dt
    exact ⟨congrArg CallResult.returned hresult, htwin⟩

/-! ### Two runs -/

/-- The controllers rest in `IDLE` with valid feedback at the same sample. -/
structure Axis.RestsLike (x y : Axis) : Prop where
  idle : x.motion.data.state = .idle ∧ y.motion.data.state = .idle
  valid : x.motion.data.feedbackValid = true ∧ y.motion.data.feedbackValid = true
  position : y.motion.data.position = x.motion.data.position
  velocity : y.motion.data.velocity = x.motion.data.velocity
  previousCount : y.motion.previousCount = x.motion.previousCount
  sampled : y.motion.sampled = x.motion.sampled

/-- What a move shows of the controller: its data without the count of completed moves and the
homing record. -/
def Axis.view (x : Axis) : MotionSnapshot :=
  { x.motion.data with completedMoves := 0, homing := {} }

/-- The course of a run: what every call returns, and the view after it. -/
def course (x : Axis) (calls : List MotionCall) : List (CallResult × MotionSnapshot) :=
  Machine.outputs MotionCall.step (fun call v => (call.result v, (call.step v).view)) x calls

/-- The moves that a run completes, as a 32-bit number. -/
def completedIn (x : Axis) (calls : List MotionCall) : UInt32 :=
  (Machine.run MotionCall.step x calls).motion.data.completedMoves - x.motion.data.completedMoves

/-- Twins take the same course and complete the same number of moves. -/
lemma Axis.Twin.course (h : x.Twin k record y) (calls : List MotionCall) :
    course y calls = course x calls ∧ completedIn y calls = completedIn x calls := by
  have hview : ∀ {v v' : Axis}, v.Twin k record v' → v'.view = v.view := by
    intro v v' hv
    unfold Axis.view
    rw [hv.motion]
    rfl
  have hstep : ∀ (call : MotionCall) (v v' : Axis), v.Twin k record v' →
      (call.step v).Twin k record (call.step v') := by
    intro call v v' hv
    exact (hv.perform call).2
  constructor
  · refine (Machine.outputs_eq hstep (fun call v v' hv => ?_) h).symm
    obtain ⟨hresult, htwin⟩ := hv.perform call
    rw [hresult, hview htwin]
  · have hend : (Machine.run MotionCall.step x calls).Twin k record
        (Machine.run MotionCall.step y calls) := Machine.run_related hstep h
    unfold completedIn
    rw [hend.motion, h.motion]
    change (_ + k) - (_ + k) = _
    grind

/-- An accepted motion makes twins of two controllers that rest alike. -/
lemma twin_of_start {c : MotionConfig} (hx : x.Configured c) (hy : y.Configured c)
    (hrest : x.RestsLike y) (hio : x.io.Alike y.io) {command : MotionCommand}
    (htype : command.type = .moveAbs ∨ command.type = .moveRel)
    (hacc : (motionCommand x command).1 = .accepted) :
    (motionCommand y command).1 = .accepted ∧
      ∃ k, (motionCommand x command).2.Twin k y.motion.data.homing (motionCommand y command).2 := by
  have htarget : motionTarget y.motion command = motionTarget x.motion command := by
    unfold motionTarget
    rw [hrest.position]
  have hrange : y.motion.outOfRange (motionTarget x.motion command) =
      x.motion.outOfRange (motionTarget x.motion command) := by
    unfold MotionController.outOfRange
    rw [hx.config, hy.config]
  have hne : command.type ≠ .stop := by rcases htype with h | h <;> simp [h]
  rcases motionCommand_cases x command with ⟨hrefused, -⟩ | ⟨hstop, -⟩ | ⟨-, -, -, hin, heq⟩
  · exact absurd hacc hrefused
  · exact absurd hstop hne
  have hyacc : motionCommand y command =
      (.accepted, { y with motion := y.motion.start (motionTarget x.motion command) }) := by
    unfold motionCommand
    rw [if_neg (by simp [hy.initialized, hrest.valid.2]), if_neg hne,
      if_neg (fun h => htype.elim h.1 h.2), if_neg (not_not.mpr hrest.idle.2), htarget, hrange, hin]
    rfl
  rw [hyacc, heq]
  refine ⟨rfl, y.motion.data.completedMoves - x.motion.data.completedMoves, hio, ?_⟩
  have hcount : x.motion.data.completedMoves +
      (y.motion.data.completedMoves - x.motion.data.completedMoves) =
      y.motion.data.completedMoves := by grind
  simp [MotionController.start, MotionController.dropDemand, MotionController.relabel, pidReset,
    hcount, hrest.position, hrest.velocity, hrest.previousCount, hrest.sampled, hrest.valid.1,
    hrest.valid.2, hx.config, hy.config, hx.pidConfig, hy.pidConfig, hx.pidInitialized,
    hy.pidInitialized, hx.initialized, hy.initialized]

/-- An accepted motion counts nothing by itself. -/
lemma completedMoves_of_start {command : MotionCommand}
    (hacc : (motionCommand x command).1 = .accepted) :
    (motionCommand x command).2.motion.data.completedMoves = x.motion.data.completedMoves := by
  rcases motionCommand_cases x command with ⟨hrefused, -⟩ | ⟨-, heq⟩ | ⟨-, -, -, -, heq⟩
  · exact absurd hacc hrefused
  · rw [heq]
    exact halt_completedMoves x.motion
  · rw [heq]
    rfl

/-- **A move forgets the past.**  Take two controllers reached from `motion_init` with one
configuration, by any moves, stops, failures, homes and gates.  If they rest alike, the encoders
will report the same counts and the motors agree in the inhibition and in the directional guard,
then a `MOVE` or `MOVE_REL` that one of them accepts is accepted by both, and from there the same
calls return the same, show the same views and complete the same number of moves. -/
theorem move_forgets_past {c : MotionConfig} {x' y' x₀ y₀ : Axis} (hx : motionInit x' c = some x₀)
    (hy : motionInit y' c = some y₀) (past past' : List AxisCall)
    (hrest : (Machine.run AxisCall.step x₀ past).RestsLike (Machine.run AxisCall.step y₀ past'))
    (hio : (Machine.run AxisCall.step x₀ past).io.Alike (Machine.run AxisCall.step y₀ past').io)
    {command : MotionCommand} (htype : command.type = .moveAbs ∨ command.type = .moveRel)
    (hacc : (motionCommand (Machine.run AxisCall.step x₀ past) command).1 = .accepted)
    (calls : List MotionCall) :
    course (Machine.run AxisCall.step y₀ past') (.command command :: calls) =
        course (Machine.run AxisCall.step x₀ past) (.command command :: calls) ∧
      completedIn (Machine.run AxisCall.step y₀ past') (.command command :: calls) =
        completedIn (Machine.run AxisCall.step x₀ past) (.command command :: calls) := by
  have hconfigured := configured_run hx past
  have hconfigured' := configured_run hy past'
  set x := Machine.run AxisCall.step x₀ past
  set y := Machine.run AxisCall.step y₀ past'
  obtain ⟨hacc', k, htwin⟩ := twin_of_start hconfigured hconfigured' hrest hio htype hacc
  obtain ⟨hcourse, hcompleted⟩ := htwin.course calls
  have hview : (motionCommand y command).2.view = (motionCommand x command).2.view := by
    unfold Axis.view
    rw [htwin.motion]
    rfl
  have hstarted : ∀ {v : Axis}, (motionCommand v command).1 = .accepted →
      completedIn v (.command command :: calls) =
        completedIn (motionCommand v command).2 calls := by
    intro v hv
    unfold completedIn
    rw [completedMoves_of_start hv]
    rfl
  refine ⟨?_, ?_⟩
  · change (CallResult.commanded (motionCommand y command).1, (motionCommand y command).2.view) ::
        course (motionCommand y command).2 calls =
      (CallResult.commanded (motionCommand x command).1, (motionCommand x command).2.view) ::
        course (motionCommand x command).2 calls
    rw [hacc, hacc', hview, hcourse]
  · rw [hstarted hacc, hstarted hacc', hcompleted]

omit [Rounding] in
/-- A controller that has been through a failed sample moves like a fresh one. -/
theorem move_forgets_past_failure :
    let x := Machine.run (@AxisCall.step Binary32.rounding) (startedBench fun _ => 1000)
      [.motion (.sample (.finite (1 / 100)))]
    let y := Machine.run (@AxisCall.step Binary32.rounding) (startedBench fun _ => 1000)
      [.motion (.sample (.finite (1 / 100))), .motion (.command ⟨.moveAbs, 2000⟩),
        .motion (.sample 0), .motion (.sample (.finite (1 / 100)))]
    @course Binary32.rounding y [.command ⟨.moveAbs, 900⟩, .update (.finite (1 / 100))] =
        @course Binary32.rounding x [.command ⟨.moveAbs, 900⟩, .update (.finite (1 / 100))] ∧
      @completedIn Binary32.rounding y [.command ⟨.moveAbs, 900⟩, .update (.finite (1 / 100))] =
        @completedIn Binary32.rounding x [.command ⟨.moveAbs, 900⟩, .update (.finite (1 / 100))] :=
  @move_forgets_past Binary32.rounding defaultConfig32 (bench fun _ => 1000) (bench fun _ => 1000)
    (startedBench fun _ => 1000) (startedBench fun _ => 1000) (motionInit_bench _)
    (motionInit_bench _) [.motion (.sample (.finite (1 / 100)))]
    [.motion (.sample (.finite (1 / 100))), .motion (.command ⟨.moveAbs, 2000⟩),
      .motion (.sample 0), .motion (.sample (.finite (1 / 100)))]
    ⟨by decide +kernel, by decide +kernel, by decide +kernel, by decide +kernel, by decide +kernel,
      by decide +kernel⟩
    ⟨by decide +kernel, by decide +kernel, by decide +kernel,
      counts_of_standstill (congrArg Environment.rawCount (@env_run Binary32.rounding _ _))
        (congrArg Environment.rawCount (@env_run Binary32.rounding _ _)) (by decide +kernel)⟩
    ⟨.moveAbs, 900⟩ (Or.inl rfl) (by decide +kernel) [.update (.finite (1 / 100))]

omit [Rounding] in
/-- Agreement in the inhibition alone is not enough: with the directional guard set, the motor
refuses the negative duty that the other motor applies. -/
theorem move_remembers_guard :
    let x := Machine.run (@AxisCall.step Binary32.rounding) (startedBench fun _ => 1000)
      [.motion (.sample (.finite (1 / 100)))]
    let y := Machine.run (@AxisCall.step Binary32.rounding) (startedBench fun _ => 1000)
      [.blockNegative true, .motion (.sample (.finite (1 / 100)))]
    x.RestsLike y ∧ x.io.motor.initialized = true ∧ y.io.motor.initialized = true ∧
      x.io.motor.inhibited = false ∧ y.io.motor.inhibited = false ∧
      (∀ n, { y.io with rawReads := y.io.rawReads + n }.encoderGetCount =
        { x.io with rawReads := x.io.rawReads + n }.encoderGetCount) ∧
      (@motionCommand Binary32.rounding x ⟨.moveAbs, 900⟩).1 = .accepted ∧
      (@motionCommand Binary32.rounding y ⟨.moveAbs, 900⟩).1 = .accepted ∧
      @course Binary32.rounding y [.command ⟨.moveAbs, 900⟩, .update (.finite (1 / 100))] ≠
        @course Binary32.rounding x [.command ⟨.moveAbs, 900⟩, .update (.finite (1 / 100))] := by
  refine ⟨⟨?_, ?_, ?_, ?_, ?_, ?_⟩, ?_, ?_, ?_, ?_,
    counts_of_standstill (congrArg Environment.rawCount (@env_run Binary32.rounding _ _))
      (congrArg Environment.rawCount (@env_run Binary32.rounding _ _)) ?_, ?_, ?_, ?_⟩
  all_goals decide +kernel

end MotionFirmware
