import MotionFirmware.Control.Homing
import MotionFirmware.Foundation.Binary32
import MotionFirmware.Foundation.Machine

/-!
# Runs of the controller

A controller is initialised by `motion_init` and then called by its task in any order.  The calls
form a machine on the axis; `MotionCall.Effect` says once what a call can do, and every invariant of
a run is proved from it.
-/

namespace MotionFirmware

/-- A call of `motion_sample`, `motion_command` or `motion_update`. -/
inductive MotionCall where
  | sample (dt : FloatValue)
  | command (command : MotionCommand)
  | update (dt : FloatValue)
  deriving DecidableEq

/-- What a call returns. -/
inductive CallResult where
  | returned (ok : Bool)
  | commanded (result : MotionResult)
  deriving DecidableEq

variable [Rounding]

/-- The input check of `motion_update` refuses the call. -/
def Axis.refusesUpdate (x : Axis) (dt : FloatValue) : Bool :=
  !x.motion.initialized || !x.motion.data.feedbackValid || badStep dt

namespace MotionCall

/-- The result of a call and the axis after it. -/
def perform : MotionCall → Axis → CallResult × Axis
  | sample dt, x => (.returned (motionSample x dt).1, (motionSample x dt).2)
  | command c, x => (.commanded (motionCommand x c).1, (motionCommand x c).2)
  | update dt, x => (.returned (motionUpdate x dt).1, (motionUpdate x dt).2)

/-- What the call returns. -/
def result (call : MotionCall) (x : Axis) : CallResult := (call.perform x).1

/-- The axis after the call. -/
def step (call : MotionCall) (x : Axis) : Axis := (call.perform x).2

/-- The call returns `false`. -/
def Fails (call : MotionCall) (x : Axis) : Prop := call.result x = .returned false

/-- The call is an accepted `MOVE` or `MOVE_REL`. -/
def Starts (call : MotionCall) (x : Axis) : Prop :=
  ∃ c, call = .command c ∧ (c.type = .moveAbs ∨ c.type = .moveRel) ∧
    (motionCommand x c).1 = .accepted

/-- The call is a `motion_sample` that returns `true`. -/
def Samples (call : MotionCall) (x : Axis) : Prop :=
  ∃ dt, call = .sample dt ∧ (motionSample x dt).1 = true

instance (call : MotionCall) (x : Axis) : Decidable (call.Fails x) :=
  inferInstanceAs (Decidable (_ = _))

/-- What a call can do to the axis `x`. -/
inductive Effect (x : Axis) : MotionCall → CallResult → Axis → Prop
  /-- A sample or an update fails. -/
  | failed {call : MotionCall} {y : Axis} (frame : x.Frame y)
      (kind : ∀ c, call ≠ .command c)
      (cause : ∀ dt, call = .update dt →
        x.refusesUpdate dt = true ∨ x.motion.updated.data.state = .moving) :
      Effect x call (.returned false) (fail y)
  /-- A sample is taken. -/
  | sampled {dt : FloatValue} {count : Int32} (read : x.io.encoderGetCount = some count)
      (good : x.motion.badCount count dt = false) :
      Effect x (.sample dt) (.returned true)
        { io := x.io.afterEncoder, motion := x.motion.accept count dt }
  /-- A command is refused. -/
  | refused {c : MotionCommand} {r : MotionResult} (refused : r ≠ .accepted) :
      Effect x (.command c) (.commanded r) x
  /-- A `STOP` is accepted. -/
  | halted {c : MotionCommand} (type : c.type = .stop) :
      Effect x (.command c) (.commanded .accepted)
        { io := x.io.motorDisable, motion := x.motion.halt }
  /-- A `MOVE` or `MOVE_REL` is accepted. -/
  | started {c : MotionCommand} (type : c.type = .moveAbs ∨ c.type = .moveRel)
      (idle : x.motion.data.state = .idle) (valid : x.motion.data.feedbackValid = true)
      (range : x.motion.outOfRange (motionTarget x.motion c) = false) :
      Effect x (.command c) (.commanded .accepted)
        { x with motion := x.motion.start (motionTarget x.motion c) }
  /-- An update rests. -/
  | rested {dt : FloatValue} (checked : x.refusesUpdate dt = false)
      (state : x.motion.updated.data.state ≠ .moving) :
      Effect x (.update dt) (.returned true) (motionRest { x with motion := x.motion.updated })
  /-- An update drives the motor. -/
  | drove {dt out : FloatValue} {pid : PidController} (checked : x.refusesUpdate dt = false)
      (state : x.motion.updated.data.state = .moving)
      (output : x.motion.updated.pidStep dt = some (out, pid))
      (driven : (motorSetOutput x.io.motor out).1 = .ok) :
      Effect x (.update dt) (.returned true)
        { io := { x.io with motor := (motorSetOutput x.io.motor out).2 }
          motion := x.motion.updated.withOutput out pid }

end MotionCall

/-! ### The effect of a call -/

/-- An update that passes its input check rests, unless it drives the motor in `MOVING`. -/
lemma motionUpdate_checked {x : Axis} {dt : FloatValue} (h : x.refusesUpdate dt = false) :
    motionUpdate x dt =
      if x.motion.updated.data.state = .moving then
        motionDrive { x with motion := x.motion.updated } dt
      else (true, motionRest { x with motion := x.motion.updated }) := by
  have hchecked : ¬ (!x.motion.initialized || !x.motion.data.feedbackValid || badStep dt) = true :=
    fun hrefused => absurd hrefused (by simpa [Axis.refusesUpdate] using h)
  unfold motionUpdate
  rw [if_neg hchecked]

/-- A successful drive applies the output of the PID step. -/
lemma motionDrive_ok {x : Axis} {dt : FloatValue} (h : (motionDrive x dt).1 = true) :
    ∃ out pid, x.motion.pidStep dt = some (out, pid) ∧ (motorSetOutput x.io.motor out).1 = .ok ∧
      motionDrive x dt = (true,
        { io := { x.io with motor := (motorSetOutput x.io.motor out).2 }
          motion := x.motion.withOutput out pid }) := by
  unfold motionDrive at h ⊢
  split at h
  · exact absurd h nofun
  · next out pid hstep =>
    dsimp only at h ⊢
    split_ifs at h with hok
    rw [hstep]
    exact ⟨out, pid, rfl, hok, if_pos hok⟩

namespace MotionCall

/-- **Inversion.**  Every call has one of the effects. -/
theorem effect (call : MotionCall) (x : Axis) :
    Effect x call (call.result x) (call.step x) := by
  cases call with
  | sample dt =>
    change Effect x _ (.returned (motionSample x dt).1) (motionSample x dt).2
    rcases motionSample_cases x dt with ⟨y, hframe, -, heq⟩ | ⟨count, hread, hgood, heq⟩
    · rw [heq]
      exact .failed hframe nofun nofun
    · rw [heq]
      exact .sampled hread hgood
  | command c =>
    change Effect x _ (.commanded (motionCommand x c).1) (motionCommand x c).2
    rcases motionCommand_cases x c with ⟨hrefused, heq⟩ | ⟨hstop, heq⟩ |
      ⟨htype, hidle, hvalid, hrange, heq⟩
    · rw [heq]
      exact .refused hrefused
    · rw [heq]
      exact .halted hstop
    · rw [heq]
      exact .started htype hidle hvalid hrange
  | update dt =>
    change Effect x _ (.returned (motionUpdate x dt).1) (motionUpdate x dt).2
    by_cases hrefused : x.refusesUpdate dt = true
    · have heq : motionUpdate x dt = (false, fail x) := by
        unfold motionUpdate
        exact if_pos hrefused
      rw [heq]
      exact .failed (.refl x) nofun fun _ h => Or.inl (by cases h; exact hrefused)
    · have hchecked : x.refusesUpdate dt = false := by simpa using hrefused
      by_cases hmoving : x.motion.updated.data.state = .moving
      · rcases motionUpdate_cases x dt with ⟨y, hframe, -, heq⟩ | ⟨hne, -⟩ | ⟨_, _, -, -, hdrove⟩
        · rw [heq]
          exact .failed hframe nofun fun _ _ => Or.inr hmoving
        · exact absurd hmoving hne
        · have hupdate := motionUpdate_checked hchecked
          rw [if_pos hmoving] at hupdate
          have hdrive : (motionDrive { x with motion := x.motion.updated } dt).1 = true := by
            rw [← hupdate, hdrove]
          obtain ⟨out, pid, hstep, hok, heq⟩ := motionDrive_ok hdrive
          rw [hupdate, heq]
          exact .drove hchecked hmoving hstep hok
      · rw [motionUpdate_checked hchecked, if_neg hmoving]
        exact .rested hchecked hmoving

end MotionCall

/-! ### The start of a run -/

omit [Rounding] in
/-- An accepted configuration starts the controller. -/
lemma motionInit_of_valid {c : MotionConfig} {pid : PidController} (x : Axis)
    (hvalid : c.valid = true) (hpid : pidInit c.pid = some pid) :
    motionInit x c = some
      { io := x.io.motorDisable
        motion := { config := c, pid := pid, data := { state := .idle },
                    initialized := true } } := by
  unfold motionInit
  rw [if_neg (by simp [hvalid]), hpid]
  rfl

/-- `motion_init` accepts the default configuration. -/
lemma motionInit_default (x : Axis) : ∃ x', motionInit x motionDefaultConfig = some x' := by
  have hround : ∀ q : ℚ, 1 / 2 ^ 100 ≤ q → q ≤ 2 ^ 100 →
      ∃ r, FloatValue.ofRat q = .finite r ∧ q / 2 ≤ r := by
    intro q hlow hhigh
    obtain ⟨r, hr, hle, -⟩ := FloatValue.exists_pos_round hlow hhigh
    exact ⟨r, hr, hle⟩
  obtain ⟨kp, hkp, hkp0⟩ := hround (6 / 1000) (by norm_num) (by norm_num)
  obtain ⟨ki, hki, hki0⟩ := hround (2 / 10000) (by norm_num) (by norm_num)
  obtain ⟨kd, hkd, hkd0⟩ := hround (15 / 10000) (by norm_num) (by norm_num)
  obtain ⟨sum, hsum, hsum0⟩ := hround (5 / 1000) (by norm_num) (by norm_num)
  obtain ⟨out, hout, hnear⟩ : ∃ r, FloatValue.ofRat (8 / 10) = .finite r ∧
      |r - 8 / 10| ≤ |8 / 10| / 2 ^ 23 :=
    Rounding.round_near (8 / 10) (by norm_num [abs_of_pos]) (by norm_num [abs_of_pos])
  obtain ⟨hlow, hhigh⟩ := abs_le.mp hnear
  rw [abs_of_pos (by norm_num)] at hlow hhigh
  obtain ⟨pid, hpid⟩ : ∃ pid, pidInit motionDefaultConfig.pid = some pid := by
    unfold pidInit motionDefaultConfig
    dsimp only
    rw [hkp, hki, hkd, hout, hsum]
    refine ⟨_, if_neg ?_⟩
    simp only [FloatValue.neg_finite, FloatValue.isFinite_finite, FloatValue.finite_lt_zero,
      FloatValue.zero_lt_finite, FloatValue.finite_le_finite, FloatValue.finite_lt_finite,
      Bool.or_eq_true, Bool.not_true, decide_eq_true_eq, Bool.false_eq_true]
    grind
  refine ⟨_, motionInit_of_valid x ?_ hpid⟩
  have htolerance : FloatValue.ofInt 3 = .finite 3 := Rounding.round_intCast 3 (by norm_num)
  have hvelocity : FloatValue.ofInt 25 = .finite 25 := Rounding.round_intCast 25 (by norm_num)
  have hone : (1 : FloatValue) = .finite 1 := rfl
  unfold MotionConfig.valid motionDefaultConfig
  dsimp only
  rw [hout, htolerance, hvelocity, hone]
  simp only [FloatValue.neg_finite, FloatValue.isFinite_finite, FloatValue.finite_lt_zero,
    FloatValue.zero_lt_finite, FloatValue.finite_lt_finite, Bool.and_eq_true,
    Bool.not_eq_true', decide_eq_true_eq, decide_eq_false_iff_not, and_assoc]
  refine ⟨by decide, by decide, by decide, trivial, by norm_num, trivial, by norm_num, by decide,
    by linarith, by linarith, by linarith, by linarith⟩

/-- The default configuration in binary32 arithmetic. -/
def defaultConfig32 : MotionConfig := @motionDefaultConfig Binary32.rounding

/-- The axis of a test bench: an initialised motor, and an encoder that reads `count` at its `n`-th
access. -/
def bench (count : ℕ → UInt32) : Axis where
  io :=
    { env := { gpio := fun _ => some {}, rawCount := fun n => some (count n), clock := id }
      motor := motorInit }

/-- The bench with a started controller. -/
def startedBench (count : ℕ → UInt32) : Axis where
  io := (bench count).io.motorDisable
  motion :=
    { config := defaultConfig32
      pid := { config := defaultConfig32.pid, initialized := true }
      data := { state := .idle }
      initialized := true }

omit [Rounding] in
/-- The default configuration is accepted. -/
lemma motionInit_bench (count : ℕ → UInt32) :
    motionInit (bench count) defaultConfig32 = some (startedBench count) :=
  motionInit_of_valid _ (by decide +kernel) (by decide +kernel)

end MotionFirmware
