import MotionFirmware.Control.Homing

/-!
# Shifted times in the controller

The controller is given the time by `homing_begin` and `homing_update` only, and keeps the start of
an attempt.  Its operations commute with a shift of the clock: they leave the start of the attempt
alone, set it to a time that is shifted itself, or use it in a difference.
-/

namespace MotionFirmware

/-- The record of an attempt with its start shifted, once there has been an attempt. -/
def HomingSnapshot.shift (c : UInt32) (h : HomingSnapshot) : HomingSnapshot :=
  { h with startedMs := if h.result = .none then h.startedMs else h.startedMs + c }

/-- The snapshot of the controller with the start of the attempt shifted. -/
def MotionSnapshot.shift (c : UInt32) (m : MotionSnapshot) : MotionSnapshot :=
  { m with homing := m.homing.shift c }

/-- The controller with the start of the attempt shifted. -/
def MotionController.shift (c : UInt32) (m : MotionController) : MotionController :=
  { m with data := m.data.shift c }

/-- The drivers with another clock. -/
def Peripherals.withClock (p : Peripherals) (clock : ℕ → ℕ) (reads : ℕ) : Peripherals :=
  { p with env := { p.env with clock := clock }, clockReads := reads }

/-- The axis with another clock and the start of the attempt shifted. -/
def Axis.shift (c : UInt32) (clock : ℕ → ℕ) (reads : ℕ) (x : Axis) : Axis where
  io := x.io.withClock clock reads
  motion := x.motion.shift c

/-- A result with the axis shifted. -/
def Axis.shiftResult {α : Type*} (c : UInt32) (clock : ℕ → ℕ) (reads : ℕ) (r : α × Axis) :
    α × Axis :=
  (r.1, r.2.shift c clock reads)

variable {c now : UInt32} {clock : ℕ → ℕ} {reads : ℕ} {x : Axis}

@[simp] lemma Axis.shift_initialized :
    (x.shift c clock reads).motion.initialized = x.motion.initialized := rfl

@[simp] lemma Axis.shift_state :
    (x.shift c clock reads).motion.data.state = x.motion.data.state := rfl

@[simp] lemma Axis.shift_feedbackValid :
    (x.shift c clock reads).motion.data.feedbackValid = x.motion.data.feedbackValid := rfl

@[simp] lemma Axis.shift_encoderGetCount :
    (x.shift c clock reads).io.encoderGetCount = x.io.encoderGetCount := rfl

/-! ### The operations that do not use the time -/

lemma fail_shift : fail (x.shift c clock reads) = (fail x).shift c clock reads := by
  unfold fail
  rw [Axis.shift_initialized]
  split_ifs <;> rfl

/-- Initialising forgets every attempt. -/
lemma motionInit_shift {config : MotionConfig} :
    motionInit (x.shift c clock reads) config =
      (motionInit x config).map (Axis.shift c clock reads) := by
  unfold motionInit
  split_ifs
  · rfl
  · cases pidInit config.pid with
    | none => rfl
    | some pid => rfl

section Operations

variable [Rounding] {dt : FloatValue}

lemma motionCommand_shift {command : MotionCommand} :
    motionCommand (x.shift c clock reads) command =
      Axis.shiftResult c clock reads (motionCommand x command) := by
  have htarget : motionTarget (x.shift c clock reads).motion command =
      motionTarget x.motion command := rfl
  have hrange : (x.shift c clock reads).motion.outOfRange (motionTarget x.motion command) =
      x.motion.outOfRange (motionTarget x.motion command) := rfl
  have hhalt : (x.shift c clock reads).motion.halt = x.motion.halt.shift c := by
    have hstate : (x.shift c clock reads).motion.dropDemand.data.state =
        x.motion.dropDemand.data.state := rfl
    unfold MotionController.halt
    dsimp only
    rw [hstate]
    split_ifs <;> rfl
  unfold motionCommand
  rw [Axis.shift_initialized, Axis.shift_feedbackValid, Axis.shift_state, htarget, hrange, hhalt]
  split_ifs <;> rfl

lemma motionSample_shift :
    motionSample (x.shift c clock reads) dt =
      Axis.shiftResult c clock reads (motionSample x dt) := by
  have hfail : fail { x.shift c clock reads with io := (x.shift c clock reads).io.afterEncoder } =
      (fail { x with io := x.io.afterEncoder }).shift c clock reads :=
    fail_shift (x := { x with io := x.io.afterEncoder })
  unfold motionSample
  rw [Axis.shift_initialized, Axis.shift_encoderGetCount, hfail, fail_shift]
  split_ifs
  · rfl
  · cases x.io.encoderGetCount with
    | none => rfl
    | some count =>
      have hbad : (x.shift c clock reads).motion.badCount count dt =
          x.motion.badCount count dt := rfl
      dsimp only
      rw [hbad]
      split_ifs <;> rfl

/-- The dwell does not look at the attempt. -/
lemma updated_shift (m : MotionController) : (m.shift c).updated = m.updated.shift c := by
  have hstable : (m.shift c).withError.nextStable = m.withError.nextStable := rfl
  have hstate : (m.shift c).withError.data.state = m.withError.data.state := rfl
  have hcycles : (m.shift c).withError.config = m.withError.config := rfl
  unfold MotionController.updated MotionController.dwell
  rw [hstable, hstate, hcycles]
  split_ifs <;> rfl

lemma motionDrive_shift :
    motionDrive (x.shift c clock reads) dt = Axis.shiftResult c clock reads (motionDrive x dt) := by
  have hstep : (x.shift c clock reads).motion.pidStep dt = x.motion.pidStep dt := rfl
  have hmotor : (x.shift c clock reads).io.motor = x.io.motor := rfl
  unfold motionDrive
  rw [hstep, hmotor]
  cases x.motion.pidStep dt with
  | none => exact congrArg (Prod.mk false) fail_shift
  | some out =>
    dsimp only
    split_ifs
    · rfl
    · exact congrArg (Prod.mk false) (fail_shift (x :=
        { io := { x.io with motor := (motorSetOutput x.io.motor out.1).2 }
          motion := x.motion.withOutput out.1 out.2 }))

lemma motionUpdate_shift :
    motionUpdate (x.shift c clock reads) dt =
      Axis.shiftResult c clock reads (motionUpdate x dt) := by
  have hupdated : (x.shift c clock reads).motion.updated = x.motion.updated.shift c :=
    updated_shift x.motion
  have hstate : (x.motion.updated.shift c).data.state = x.motion.updated.data.state := rfl
  unfold motionUpdate
  simp only [Axis.shift_initialized, Axis.shift_feedbackValid, hupdated, hstate]
  split_ifs
  · exact congrArg (Prod.mk false) fail_shift
  · exact motionDrive_shift (x := { x with motion := x.motion.updated })
  · rfl

end Operations

/-! ### The operations that use the time -/

/-- Closing a record with an outcome. -/
lemma HomingSnapshot.abort_shift {r : HomingResult} (hr : r ≠ .none) (h : HomingSnapshot) :
    (h.shift c).abort r = (h.abort r).shift c := by
  have hresult : (h.shift c).result = h.result := rfl
  unfold HomingSnapshot.abort
  rw [hresult]
  split_ifs with hrun
  · simp [HomingSnapshot.shift, hr, hrun]
  · rfl

lemma homingAbort_shift {r : HomingResult} (hr : r ≠ .none) :
    homingAbort (x.shift c clock reads) r = (homingAbort x r).shift c clock reads := by
  have habort : (clearControl (x.shift c clock reads)).motion.data.homing.abort r =
      ((clearControl x).motion.data.homing.abort r).shift c :=
    HomingSnapshot.abort_shift hr x.motion.data.homing
  unfold homingAbort
  dsimp only
  rw [habort]
  rfl

/-- The elapsed time of an attempt is a difference. -/
lemma withElapsed_shift {m : MotionController} (hm : m.data.homing.result ≠ .none) :
    (m.shift c).withElapsed (now + c) = (m.withElapsed now).shift c := by
  have helapsed := WrappingClock.add_sub_add_right now m.data.homing.startedMs c
  simp [MotionController.withElapsed, MotionController.shift, MotionSnapshot.shift,
    HomingSnapshot.shift, hm, helapsed]

/-- Beginning an attempt at a shifted time. -/
lemma homingBegin_shift :
    homingBegin (x.shift c clock reads) (now + c) =
      Axis.shiftResult c clock reads (homingBegin x now) := by
  unfold homingBegin
  rw [Axis.shift_initialized, Axis.shift_feedbackValid, Axis.shift_state]
  split_ifs <;> rfl

/-- The reference is set for an attempt that has begun. -/
lemma reference_shift {m : MotionController} (hm : m.data.homing.result ≠ .none) :
    (m.shift c).reference = m.reference.shift c := by
  simp [MotionController.reference, MotionController.shift, MotionSnapshot.shift,
    HomingSnapshot.shift, hm]

lemma homingContact_shift (hx : x.motion.data.homing.result ≠ .none) :
    homingContact (x.shift c clock reads) = Axis.shiftResult c clock reads (homingContact x) := by
  have hset : (clearControl (x.shift c clock reads)).io.encoderSetReference 0 =
      (((clearControl x).io.encoderSetReference 0).1,
        ((clearControl x).io.encoderSetReference 0).2.withClock clock reads) := by
    have hraw : (clearControl (x.shift c clock reads)).io.rawCount =
        (clearControl x).io.rawCount := rfl
    unfold Peripherals.encoderSetReference
    rw [hraw]
    cases (clearControl x).io.rawCount <;> rfl
  unfold homingContact
  dsimp only
  rw [hset]
  split_ifs
  · rfl
  · have hreference : (clearControl (x.shift c clock reads)).motion.reference =
        (clearControl x).motion.reference.shift c :=
      reference_shift (m := (clearControl x).motion) hx
    rw [hreference]
    rfl

/-- **An update of a running attempt** at a shifted time. -/
lemma homingUpdate_shift [Rounding] {inputs : GpioInputs}
    (hx : x.motion.data.state = .homing → x.motion.data.homing.result ≠ .none) :
    homingUpdate (x.shift c clock reads) inputs (now + c) =
      Axis.shiftResult c clock reads (homingUpdate x inputs now) := by
  unfold homingUpdate
  rw [Axis.shift_initialized, Axis.shift_feedbackValid, Axis.shift_state]
  by_cases hready : (!x.motion.initialized || !x.motion.data.feedbackValid ||
      x.motion.data.state ≠ .homing) = true
  · rw [if_pos hready, if_pos hready]
    rfl
  · rw [if_neg hready, if_neg hready]
    have hhome : x.motion.data.state = .homing := by
      simp only [Bool.or_eq_true, not_or, decide_eq_true_eq, not_not] at hready
      exact hready.2
    have hrun := hx hhome
    have helapsed : (x.shift c clock reads).motion.withElapsed (now + c) =
        (x.motion.withElapsed now).shift c := withElapsed_shift hrun
    have hbefore : ((x.motion.withElapsed now).shift c).data.homing.elapsedMs =
        (x.motion.withElapsed now).data.homing.elapsedMs := rfl
    dsimp only
    rw [helapsed, hbefore]
    split_ifs
    · rfl
    · exact congrArg (Prod.mk true) (homingAbort_shift (x :=
        { x with motion := x.motion.withElapsed now }) nofun)
    · exact homingContact_shift (x := { x with motion := x.motion.withElapsed now }) hrun
    · rfl

end MotionFirmware
