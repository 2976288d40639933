import MotionFirmware.Rtos.Periodic
import MotionFirmware.Rtos.Phases

/-!
# The time step of the Motion task

The composed runtime on the kernel: true ticks pass between any two actions, however many, and at
the end of each release the Motion task goes through `runtime_periodic_wait` before it begins the
next one.  The clock of the platform is the tick count times 10 ms.

A release reads the clock at a later tick than the release before it: a deadline that is met is a
later tick, and a missed one is followed by a yield.  So the gap between two readings is positive
unless it is a multiple of a full wrap of the millisecond clock.
-/

namespace MotionFirmware

open WrappingClock

/-- `timer_now_ms` at a true tick, with `1000 / configTICK_RATE_HZ` milliseconds in a tick. -/
def timerNowMs (now : ℕ) : UInt32 := reading now * 10

/-- The drivers at a true tick: every reading of the clock returns the milliseconds of this tick. -/
def World.atTick (w : World) (now : ℕ) : World :=
  { w with io := { w.io with env := { w.io.env with clock := fun _ => 10 * now } } }

/-- The composed runtime and the kernel. -/
structure Board where
  world : World
  /-- The true tick. -/
  now : ℕ
  /-- The Motion task in its periodic wait. -/
  task : PeriodicTask
  /-- The true ticks at which the releases have read the clock, the latest first. -/
  readings : List ℕ := []

/-- What can happen next. -/
inductive BoardAction where
  /-- A tick passes. -/
  | tick
  /-- The Motion task takes the next step of `runtime_periodic_wait`. -/
  | wait
  /-- An action of the composed runtime. -/
  | act (a : Action)
  deriving DecidableEq

section Machine

variable [Rounding]

/-- The next section of a release, at the present tick. -/
def motionRelease (b : Board) (received : Option MotionCommand) : Board :=
  let world := motionStep (b.world.atTick b.now) received
  match b.world.task.phase with
  | .configure =>
    -- `release` is declared between `motion_init` and the first reading of `previous_ms`.
    { b with world := world, task := { b.task with release := reading b.now, releasedAt := b.now } }
  | .clock => { b with world := world, readings := b.now :: b.readings }
  | .update => { b with world := world, task := { b.task with stage := .waiting } }
  | _ => { b with world := world }

/-- One action on the board.  The Motion task executes no section of a release while it waits. -/
def boardStep (a : BoardAction) (b : Board) : Board :=
  match a with
  | .tick => { b with now := b.now + 1 }
  | .wait => { b with task := runtimePeriodicWait motionPeriodMs b.now b.task }
  | .act (.motion received) => if b.task.stage = .working then motionRelease b received else b
  | .act a => { b with world := step a (b.world.atTick b.now) }

/-- The board after the given actions, from `runtime_init` at a true tick. -/
def board (env : Environment) (start : ℕ) (as : List BoardAction) : Board :=
  Machine.run boardStep
    { world := runtimeInit { env with clock := fun _ => 10 * start }
      now := start
      task := { release := 0, overruns := some 0, releasedAt := 0 } } as

end Machine

variable {w : World} {b : Board} {now r s : ℕ}

/-! ### The clock of the board -/

/-- The clock of the board shows the true milliseconds modulo `2 ^ 32`. -/
lemma timerNowMs_eq_reading (now : ℕ) : timerNowMs now = reading (10 * now) := by
  have hten : (10 : UInt32).toNat = 10 := rfl
  rw [← UInt32.toNat_inj, timerNowMs, UInt32.toNat_mul, toNat_reading, toNat_reading, hten]
  omega

@[simp] lemma platformTimeMs_atTick (w : World) (now : ℕ) :
    (w.atTick now).io.platformTimeMs = timerNowMs now :=
  (timerNowMs_eq_reading now).symm

@[simp] lemma atTick_task (w : World) (now : ℕ) : (w.atTick now).task = w.task := rfl

/-- The difference of two values of the clock. -/
lemma toNat_timerNowMs_sub (hle : s ≤ r) :
    (timerNowMs r - timerNowMs s).toNat = 10 * (r - s) % 2 ^ 32 := by
  rw [timerNowMs_eq_reading, timerNowMs_eq_reading, toNat_reading_sub (by omega), Nat.mul_sub]

/-! ### The sections that keep the times -/

/-- The values of a release that depend on the clock. -/
structure MotionTask.KeepsTimes (t u : MotionTask) : Prop where
  first : u.first = t.first
  previousMs : u.previousMs = t.previousMs
  nowMs : u.nowMs = t.nowMs
  gap : u.gap = t.gap
  dt : u.dt = t.dt

/-- Only the first reading, the reading of a release and its end change these values. -/
lemma motionStep_keepsTimes [Rounding] (r : Option MotionCommand) (hanchor : w.task.phase ≠ .anchor)
    (hclock : w.task.phase ≠ .clock) (hupdate : w.task.phase ≠ .update) :
    w.task.KeepsTimes (motionStep w r).task := by
  unfold motionStep
  split
  next => exact ⟨rfl, rfl, rfl, rfl, rfl⟩
  next =>
    unfold taskConfigure
    split <;> exact ⟨rfl, rfl, rfl, rfl, rfl⟩
  next hp => exact absurd hp hanchor
  next =>
    unfold taskBegin
    split_ifs <;> exact ⟨rfl, rfl, rfl, rfl, rfl⟩
  next hp => exact absurd hp hclock
  next => exact ⟨rfl, rfl, rfl, rfl, rfl⟩
  next =>
    have htask : (if w.task.sampled then w else sampleFailed w).task = w.task := by
      split_ifs <;> simp
    constructor <;> simp [taskReconcile, World.goto, htask]
  next =>
    unfold taskReceive
    split
    · exact ⟨rfl, rfl, rfl, rfl, rfl⟩
    · dsimp only
      split_ifs <;> exact ⟨rfl, rfl, rfl, rfl, rfl⟩
  next i command _ =>
    have htask : (if w.task.app = .idle then runtimeSafetyCommand w command
        else (.invalidState, w)).2.task = w.task := by
      split_ifs <;> simp
    constructor <;> simp [taskExecute, World.goto, htask]
  next => exact ⟨rfl, rfl, rfl, rfl, rfl⟩
  next hp => exact absurd hp hupdate

/-- The Motion task has not read the clock for the first time yet. -/
def Phase.starting : Phase → Bool
  | .create | .configure | .anchor => true
  | _ => false

/-- The release has read the clock. -/
def Phase.timed : Phase → Bool
  | .create | .configure | .anchor | .begin | .clock => false
  | _ => true

/-- What precedes a section before the first reading. -/
lemma Phase.Follows.of_starting {p q : Phase} (h : p.Follows q) (hq : q.starting = true) :
    p = .create ∨ p = .configure := by
  cases h with
  | create => exact Or.inl rfl
  | configure | refused => exact Or.inr rfl
  | skip h | report h => rcases h with rfl | rfl <;> exact absurd hq nofun
  | _ => exact absurd hq nofun

/-- What precedes the start of a release. -/
lemma Phase.Follows.of_begin {p : Phase} (h : p.Follows .begin) : p = .anchor ∨ p = .update := by
  cases h with
  | anchor => exact Or.inl rfl
  | update => exact Or.inr rfl
  | skip h | report h => simp at h

/-- What precedes the reading of the clock. -/
lemma Phase.Follows.of_clock {p : Phase} (h : p.Follows .clock) : p = .begin := by
  cases h with
  | begin => rfl
  | skip h | report h => simp at h

/-- What precedes a section after the reading of the clock. -/
lemma Phase.Follows.of_timed {p q : Phase} (h : p.Follows q) (hq : q.timed = true) :
    p = .clock ∨ p.timed = true ∧ p ≠ .update := by
  cases h with
  | create | configure | refused | anchor | begin | update => exact absurd hq nofun
  | clock => exact Or.inl rfl
  | _ => exact Or.inr ⟨rfl, nofun⟩

/-! ### The invariant -/

/-- The gap that a release computes when these are the readings so far, the latest first. -/
def gapMs : List ℕ → UInt32
  | r :: s :: _ => timerNowMs r - timerNowMs s
  | _ => motionPeriodMs

/-- The gap in true milliseconds; the first release takes its period. -/
def trueGapMs : List ℕ → ℕ
  | r :: s :: _ => 10 * (r - s)
  | _ => 10

section Invariant

variable [Rounding]

/-- What the readings so far say about the local variables of the Motion task. -/
structure Board.Timed (b : Board) : Prop where
  starting : b.world.task.phase.starting = true → b.readings = [] ∧ b.world.task.first = true
  /-- Between two releases `previous_ms` holds the last reading, unless there is none. -/
  between : b.world.task.phase = .begin ∨ b.world.task.phase = .clock →
    (b.readings = [] ∧ b.world.task.first = true) ∨
    ∃ r earlier, b.readings = r :: earlier ∧ b.world.task.first = false ∧
      b.world.task.previousMs = timerNowMs r
  timed : b.world.task.phase.timed = true →
    ∃ r earlier, b.readings = r :: earlier ∧ b.world.task.nowMs = timerNowMs r ∧
      b.world.task.gap = gapMs b.readings ∧
      b.world.task.dt = .ofInt b.world.task.gap.toNat / .ofInt 1000

/-- The invariant of the board. -/
structure Board.Scheduled (b : Board) : Prop where
  anchored : b.task.Anchored b.now
  beyond : ∀ r ∈ b.readings, b.task.Beyond r b.now
  /-- A release that has not read the clock yet will read it at a later tick. -/
  later : b.world.task.phase = .begin ∨ b.world.task.phase = .clock → b.task.stage = .working →
    ∀ r ∈ b.readings, r < b.now
  decreasing : b.readings.Pairwise (· > ·)
  timed : b.Timed

/-- What is known about the local variables depends on them and on the readings only. -/
lemma Board.Timed.congr {b c : Board} (h : b.Timed) (htask : c.world.task = b.world.task)
    (hreadings : c.readings = b.readings) : c.Timed := by
  constructor <;> rw [htask, hreadings]
  · exact h.starting
  · exact h.between
  · exact h.timed

/-- A tick keeps the invariant. -/
lemma Board.Scheduled.tick (h : b.Scheduled) : (boardStep .tick b).Scheduled where
  anchored := h.anchored.mono (Nat.le_succ _)
  beyond r hr := (h.beyond r hr).mono (Nat.le_succ _)
  later hphase hstage r hr := (h.later hphase hstage r hr).trans (Nat.lt_succ_self _)
  decreasing := h.decreasing
  timed := h.timed.congr rfl rfl

/-- A step of a wait keeps the invariant. -/
lemma Board.Scheduled.wait (h : b.Scheduled) : (boardStep .wait b).Scheduled where
  anchored := h.anchored.wait
  beyond r hr := (h.beyond r hr).wait.1
  later hphase hstage r hr := by
    by_cases hworking : b.task.stage = .working
    · exact h.later hphase hworking r hr
    · exact (h.beyond r hr).wait.2 hworking hstage
  decreasing := h.decreasing
  timed := h.timed.congr rfl rfl

/-- An action that leaves the Motion task where it is keeps the invariant. -/
lemma Board.Scheduled.other (h : b.Scheduled) (htask : w.task = b.world.task) :
    Board.Scheduled { b with world := w } where
  anchored := h.anchored
  beyond := h.beyond
  later hphase := by
    dsimp only at hphase
    rw [htask] at hphase
    exact h.later hphase
  decreasing := h.decreasing
  timed := h.timed.congr htask rfl

/-! ### A section of a release -/

variable {received : Option MotionCommand}

@[simp] lemma motionRelease_now : (motionRelease b received).now = b.now := by
  unfold motionRelease
  split <;> rfl

@[simp] lemma motionRelease_world :
    (motionRelease b received).world = motionStep (b.world.atTick b.now) received := by
  unfold motionRelease
  split <;> rfl

/-- Only the reading of the clock is recorded. -/
lemma motionRelease_readings (h : b.world.task.phase ≠ .clock) :
    (motionRelease b received).readings = b.readings := by
  unfold motionRelease
  split
  case h_2 hp => exact absurd hp h
  all_goals rfl

lemma motionRelease_readings_clock (h : b.world.task.phase = .clock) :
    (motionRelease b received).readings = b.now :: b.readings := by
  unfold motionRelease
  rw [h]

/-- A section that starts while the task is working leaves its release time anchored. -/
lemma anchored_motionRelease (h : b.task.Anchored b.now) (hstage : b.task.stage = .working) :
    (motionRelease b received).task.Anchored b.now := by
  unfold motionRelease
  split
  · simp [PeriodicTask.Anchored, hstage]
  · exact h
  · simpa only [PeriodicTask.Anchored, hstage] using h
  · exact h

/-- A section that starts while the task is working does not turn the clock back. -/
lemma beyond_motionRelease (hstage : b.task.stage = .working) (h : r ≤ b.now) :
    (motionRelease b received).task.Beyond r b.now := by
  unfold motionRelease
  split <;> simpa only [PeriodicTask.Beyond, hstage] using h

/-- The section that follows on the board. -/
lemma follows_motionRelease (b : Board) (received : Option MotionCommand) :
    b.world.task.phase.Follows (motionRelease b received).world.task.phase := by
  rw [motionRelease_world]
  exact follows_motionStep (b.world.atTick b.now) received

/-- Only the first reading, the reading of a release and its end change the times. -/
lemma keepsTimes_motionRelease (received : Option MotionCommand)
    (hanchor : b.world.task.phase ≠ .anchor) (hclock : b.world.task.phase ≠ .clock)
    (hupdate : b.world.task.phase ≠ .update) :
    b.world.task.KeepsTimes (motionRelease b received).world.task := by
  rw [motionRelease_world]
  exact motionStep_keepsTimes (w := b.world.atTick b.now) received hanchor hclock hupdate

namespace Board.Timed

/-- Before the first reading. -/
lemma starting_release (h : b.Timed)
    (hq : (motionRelease b received).world.task.phase.starting = true) :
    (motionRelease b received).readings = [] ∧
      (motionRelease b received).world.task.first = true := by
  have hp := (follows_motionRelease b received).of_starting hq
  have hnot (p : Phase) (hcreate : Phase.create ≠ p) (hconfigure : Phase.configure ≠ p) :
      b.world.task.phase ≠ p := by
    rcases hp with hp | hp <;> rwa [hp]
  have hkeep := keepsTimes_motionRelease received (hnot .anchor nofun nofun)
    (hnot .clock nofun nofun) (hnot .update nofun nofun)
  rw [motionRelease_readings (hnot .clock nofun nofun), hkeep.first]
  exact h.starting (by rcases hp with hp | hp <;> rw [hp] <;> rfl)

/-- The first reading of `previous_ms`. -/
lemma between_of_anchor (h : b.Timed) (hp : b.world.task.phase = .anchor) :
    (motionRelease b received).readings = [] ∧
      (motionRelease b received).world.task.first = true := by
  rw [motionRelease_readings (by simp [hp]), motionRelease_world]
  simpa only [motionStep, atTick_task, hp, taskAnchor] using h.starting (by rw [hp]; rfl)

/-- The end of a release. -/
lemma between_of_update (h : b.Timed) (hp : b.world.task.phase = .update) :
    ∃ r earlier, (motionRelease b received).readings = r :: earlier ∧
      (motionRelease b received).world.task.first = false ∧
      (motionRelease b received).world.task.previousMs = timerNowMs r := by
  obtain ⟨r, earlier, hreadings, hnow, -, -⟩ := h.timed (by rw [hp]; rfl)
  rw [motionRelease_readings (by simp [hp]), motionRelease_world]
  refine ⟨r, earlier, hreadings, ?_, ?_⟩
  · simp only [motionStep, atTick_task, hp, taskUpdate, publishRelease]
  · simpa only [motionStep, atTick_task, hp, taskUpdate, publishRelease,
      controlSection_task] using hnow

/-- The reading of the clock. -/
lemma timed_of_clock (h : b.Timed) (hp : b.world.task.phase = .clock) :
    (motionRelease b received).world.task.nowMs = timerNowMs b.now ∧
      (motionRelease b received).world.task.gap = gapMs (b.now :: b.readings) ∧
      (motionRelease b received).world.task.dt =
        .ofInt (motionRelease b received).world.task.gap.toNat / .ofInt 1000 := by
  rw [motionRelease_world]
  simp only [motionStep, atTick_task, hp, taskClock, platformTimeMs_atTick, true_and, and_true]
  rcases h.between (Or.inr hp) with ⟨hnil, hfirst⟩ | ⟨r, earlier, hcons, hfirst, hprevious⟩
  · rw [hnil, hfirst]
    rfl
  · rw [hcons, hfirst, hprevious]
    rfl

/-- A section of a release keeps what is known about the local variables. -/
lemma motionRelease (h : b.Timed) : (MotionFirmware.motionRelease b received).Timed where
  starting := h.starting_release
  between hq := by
    have hfollows := follows_motionRelease b received
    rcases hq with hq | hq <;> rw [hq] at hfollows
    · rcases hfollows.of_begin with hp | hp
      · exact Or.inl (h.between_of_anchor hp)
      · exact Or.inr (h.between_of_update hp)
    · have hp := hfollows.of_clock
      have hkeep := keepsTimes_motionRelease (b := b) received (by simp [hp])
        (by simp [hp]) (by simp [hp])
      rw [motionRelease_readings (by simp [hp]), hkeep.first, hkeep.previousMs]
      exact h.between (Or.inl hp)
  timed hq := by
    rcases (follows_motionRelease b received).of_timed hq with hp | ⟨hp, hne⟩
    · rw [motionRelease_readings_clock hp]
      exact ⟨b.now, b.readings, rfl, h.timed_of_clock hp⟩
    · have hclock : b.world.task.phase ≠ .clock := fun heq => absurd (heq ▸ hp) nofun
      have hanchor : b.world.task.phase ≠ .anchor := fun heq => absurd (heq ▸ hp) nofun
      have hkeep := keepsTimes_motionRelease received hanchor hclock hne
      rw [motionRelease_readings hclock, hkeep.nowMs, hkeep.gap, hkeep.dt]
      exact h.timed hp

end Board.Timed

namespace Board.Scheduled

/-- The readings lie in the past. -/
lemma le_now (h : b.Scheduled) (hstage : b.task.stage = .working) (hr : r ∈ b.readings) :
    r ≤ b.now := by
  have hbeyond := h.beyond r hr
  simpa only [PeriodicTask.Beyond, hstage] using hbeyond

/-- A section that leaves the task working before the reading of the clock has readings only in
the strict past: the end of a release does not leave the task working. -/
lemma later_release (h : b.Scheduled) (hstage : b.task.stage = .working)
    (hq : (motionRelease b received).world.task.phase = .begin ∨
      (motionRelease b received).world.task.phase = .clock)
    (hworking : (motionRelease b received).task.stage = .working)
    (hr : r ∈ (motionRelease b received).readings) : r < b.now := by
  have hfollows := follows_motionRelease b received
  rcases hq with hq | hq <;> rw [hq] at hfollows
  · rcases hfollows.of_begin with hp | hp
    · rw [(h.timed.between_of_anchor hp).1] at hr
      exact absurd hr List.not_mem_nil
    · simp only [motionRelease, hp] at hworking
      exact absurd hworking nofun
  · have hp := hfollows.of_clock
    rw [motionRelease_readings (by simp [hp])] at hr
    exact h.later (Or.inl hp) hstage r hr

/-- A section of a release keeps the invariant. -/
lemma motionRelease (h : b.Scheduled) (hstage : b.task.stage = .working) :
    (MotionFirmware.motionRelease b received).Scheduled where
  anchored := by
    rw [motionRelease_now]
    exact anchored_motionRelease h.anchored hstage
  beyond r hr := by
    rw [motionRelease_now]
    refine beyond_motionRelease hstage ?_
    by_cases hp : b.world.task.phase = .clock
    · rw [motionRelease_readings_clock hp] at hr
      rcases List.mem_cons.mp hr with rfl | hr
      · exact le_rfl
      · exact h.le_now hstage hr
    · exact h.le_now hstage (motionRelease_readings hp ▸ hr)
  later hphase hworking r hr := by
    rw [motionRelease_now]
    exact h.later_release hstage hphase hworking hr
  decreasing := by
    by_cases hp : b.world.task.phase = .clock
    · rw [motionRelease_readings_clock hp, List.pairwise_cons]
      exact ⟨h.later (Or.inr hp) hstage, h.decreasing⟩
    · rw [motionRelease_readings hp]
      exact h.decreasing
  timed := h.timed.motionRelease

/-- Every action keeps the invariant. -/
lemma step (a : BoardAction) (h : b.Scheduled) : (boardStep a b).Scheduled := by
  cases a with
  | tick => exact h.tick
  | wait => exact h.wait
  | act a =>
    by_cases hother : ∀ received, a ≠ .motion received
    · have htask := (step_other (w := b.world.atTick b.now) hother).1
      rw [atTick_task] at htask
      have heq : boardStep (.act a) b =
          { b with world := MotionFirmware.step a (b.world.atTick b.now) } := by
        cases a with
        | motion received => exact absurd rfl (hother received)
        | _ => rfl
      rw [heq]
      exact h.other htask
    · push Not at hother
      obtain ⟨received, rfl⟩ := hother
      simp only [boardStep]
      split_ifs with hstage
      · exact h.motionRelease hstage
      · exact h

end Board.Scheduled

/-- Every reachable board meets the invariant. -/
theorem scheduled_board (env : Environment) (start : ℕ) (as : List BoardAction) :
    (board env start as).Scheduled := by
  refine Machine.run_invariant_of_forall (fun a b h => h.step a) ?_
  exact
    { anchored := ⟨rfl, Nat.zero_le _⟩
      beyond := by simp
      later := by simp
      decreasing := List.Pairwise.nil
      timed :=
        { starting := fun _ => ⟨rfl, rfl⟩
          between := fun _ => Or.inl ⟨rfl, rfl⟩
          timed := fun h => absurd h nofun } }

/-! ### The time step -/

/-- The time step of a positive gap is positive. -/
lemma pos_timeStep {gap : UInt32} (h : 0 < gap.toNat) :
    (0 : FloatValue) < .ofInt gap.toNat / .ofInt 1000 := by
  have htop := gap.toNat_lt
  exact FloatValue.pos_ofInt_div (by exact_mod_cast h) (by exact_mod_cast htop.le) (by norm_num)
    (by norm_num)

omit [Rounding] in
/-- The computed gap is the true one modulo the range of the clock. -/
lemma toNat_gapMs {readings : List ℕ} (h : readings.Pairwise (· > ·)) :
    (gapMs readings).toNat = trueGapMs readings % 2 ^ 32 := by
  unfold gapMs trueGapMs
  split
  next r s rest =>
    have hlt : s < r := List.rel_of_pairwise_cons h List.mem_cons_self
    exact toNat_timerNowMs_sub hlt.le
  next => rfl

omit [Rounding] in
/-- Strictly increasing ticks are at least one tick apart. -/
lemma trueGapMs_pos {readings : List ℕ} (h : readings.Pairwise (· > ·)) :
    0 < trueGapMs readings := by
  unfold trueGapMs
  split
  next r s rest =>
    have hlt : s < r := List.rel_of_pairwise_cons h List.mem_cons_self
    omega
  next => norm_num

omit [Rounding] in
lemma ten_dvd_trueGapMs (readings : List ℕ) : 10 ∣ trueGapMs readings := by
  unfold trueGapMs
  split
  · exact dvd_mul_right _ _
  · exact dvd_rfl

omit [Rounding] in
/-- A positive time step is refused only for being too long or not a number. -/
lemma badStep_of_pos {dt : FloatValue} (h : 0 < dt) :
    badStep dt = (!dt.isFinite || decide (1 < dt)) := by
  have hle : ¬ dt ≤ 0 := FloatValue.not_le_of_lt h
  simp [badStep, hle]

/-- The work of the release that ends is finished before the next deadline. -/
def Timely (a : BoardAction) (b : Board) : Prop :=
  a = .wait → b.task.stage = .waiting →
    b.now < b.task.releasedAt + (pdMsToTicks motionPeriodMs).toNat

instance (a : BoardAction) (b : Board) : Decidable (Timely a b) :=
  inferInstanceAs (Decidable (_ → _ → _))

/-- An action counts no overrun when the deadline that it looks at has not passed. -/
lemma overruns_boardStep {a : BoardAction} (h : b.Scheduled) (htimely : Timely a b) :
    (boardStep a b).task.overruns = b.task.overruns := by
  cases a with
  | tick => rfl
  | wait =>
    simp only [boardStep]
    by_cases hstage : b.task.stage = .waiting
    · rw [runtimePeriodicWait_of_timely h.anchored hstage (htimely rfl hstage)]
    · exact runtimePeriodicWait_overruns hstage
  | act a =>
    cases a with
    | motion received =>
      simp only [boardStep, motionRelease]
      split_ifs
      · split <;> rfl
      · rfl
    | _ => rfl

/-- The time step of the Motion task is never zero.  On every run the ticks at which the releases
read the clock strictly increase; the gap of a release, unless it is a full wrap of the clock or
longer, is a positive multiple of 10 ms, and the time step that it passes to `motion_sample` and
`motion_update` is positive, so that they may refuse it for being too long, but not for being zero.
From any state on, also from one after an overrun, releases that finish before their next deadline
count no overrun. -/
theorem motion_time_step (env : Environment) (start : ℕ) (as : List BoardAction) :
    (board env start as).readings.Pairwise (· > ·) ∧
    ((board env start as).world.task.phase.timed = true →
      trueGapMs (board env start as).readings < 2 ^ 32 →
      (board env start as).world.task.gap.toNat = trueGapMs (board env start as).readings ∧
      0 < trueGapMs (board env start as).readings ∧
      10 ∣ trueGapMs (board env start as).readings ∧
      ¬ (board env start as).world.task.dt ≤ 0 ∧
      badStep (board env start as).world.task.dt =
        (!(board env start as).world.task.dt.isFinite ||
          decide (1 < (board env start as).world.task.dt))) ∧
    ∀ bs : List BoardAction, Machine.Along boardStep Timely (board env start as) bs →
      (board env start (as ++ bs)).task.overruns = (board env start as).task.overruns := by
  have hscheduled := scheduled_board env start as
  refine ⟨hscheduled.decreasing, ?_, ?_⟩
  · intro hphase hshort
    obtain ⟨r, earlier, hreadings, -, hgap, hdt⟩ := hscheduled.timed.timed hphase
    have htrue := toNat_gapMs hscheduled.decreasing
    rw [Nat.mod_eq_of_lt hshort, ← hgap] at htrue
    have hpos := trueGapMs_pos hscheduled.decreasing
    have hstep := pos_timeStep (htrue ▸ hpos)
    rw [← hdt] at hstep
    exact ⟨htrue, hpos, ten_dvd_trueGapMs _, FloatValue.not_le_of_lt hstep, badStep_of_pos hstep⟩
  · intro bs hbs
    have hrun := Machine.run_invariant
      (I := fun b => b.Scheduled ∧ b.task.overruns = (board env start as).task.overruns)
      (fun a b h htimely => ⟨h.1.step a, (overruns_boardStep h.1 htimely).trans h.2⟩)
      ⟨hscheduled, rfl⟩ hbs
    rw [board, Machine.run_append]
    exact hrun.2

end Invariant

/-- The start, and a release that finishes two ticks after its deadline; the next release has read
the clock. -/
def lateRelease : List BoardAction :=
  List.replicate 9 (.act (.motion none)) ++ [.tick, .tick, .wait, .wait, .tick, .wait] ++
    List.replicate 2 (.act (.motion none))

set_option maxRecDepth 4000 in
/-- After the release that finishes late the gap is 30 ms, and the overrun that was counted for it
stays the only one. -/
theorem motion_time_step_late :
    (@board Binary32.rounding standstill 5 lateRelease).readings = [8, 5] ∧
    (@board Binary32.rounding standstill 5 lateRelease).task.overruns = some 1 ∧
    (@board Binary32.rounding standstill 5 lateRelease).world.task.gap.toNat = 30 ∧
    (@board Binary32.rounding standstill 5
      (lateRelease ++ List.replicate 4 (.act (.motion none)) ++ [.wait])).task.overruns =
        some 1 := by
  have hlate := @motion_time_step Binary32.rounding standstill 5 lateRelease
  have hreadings : (@board Binary32.rounding standstill 5 lateRelease).readings = [8, 5] := by
    decide +kernel
  have hoverruns : (@board Binary32.rounding standstill 5 lateRelease).task.overruns = some 1 := by
    decide +kernel
  have hgap := (hlate.2.1 (by decide +kernel) (by rw [hreadings]; decide)).1
  rw [hreadings] at hgap
  refine ⟨hreadings, hoverruns, hgap, ?_⟩
  rw [List.append_assoc, hlate.2.2 _ (by decide +kernel)]
  exact hoverruns

end MotionFirmware
