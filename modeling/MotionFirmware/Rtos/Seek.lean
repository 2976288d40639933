import MotionFirmware.Rtos.HomingDeadline
import MotionFirmware.Rtos.HomingRecord
import MotionFirmware.Rtos.Integrity

/-!
# The bounds of a seek

A release that publishes `HOMING` has driven the motor with the fixed duty of a seek, less than 40 s
after the attempt was accepted.  The elapsed time is an unsigned difference, which could jump over
the deadline; a release that comes more than about a second after the previous one loses its sample
instead, and with it the attempt, unless it comes a full wrap of the clock later.

Between two publications nothing but a latch changes the published state, and nothing but the
control update applies a duty.
-/

namespace MotionFirmware

variable [Rounding] {k : OperationKind} {w w' w'' : World} {a : Action}

/-! ### A control section that ends in `HOMING` -/

/-- A `homing_update` of a running attempt that neither fails nor ends it applies the duty of the
seek, before the deadline. -/
lemma homingUpdate_seeks {x : Axis} {inputs : GpioInputs} {now : UInt32}
    (hmotor : x.io.motor.initialized = true) (hrun : x.motion.data.homing.result = .running)
    (hok : (homingUpdate x inputs now).1 = true)
    (hgoes : (homingUpdate x inputs now).2.motion.data.homing.result = .running) :
    now - x.motion.data.homing.startedMs < homingTimeoutMs ∧
      (homingUpdate x inputs now).2.motion.data.pwm = homingPwm ∧
      (homingUpdate x inputs now).2.io.motor.output = homingPwm := by
  unfold homingUpdate at hok hgoes ⊢
  dsimp only at hok hgoes ⊢
  split_ifs at hok hgoes ⊢ with hinput hhazard hlate hcontact
  · refine absurd hgoes ?_
    simp [homingAbort, HomingSnapshot.abort, clearControl, MotionController.withElapsed, hrun]
  · unfold homingContact at hok hgoes
    dsimp only at hok hgoes
    split_ifs at hok hgoes
    exact absurd hgoes (fun h => by cases h)
  · refine ⟨UInt32.not_le.mp hlate, rfl, ?_⟩
    obtain ⟨q, hq, hle⟩ := exists_homingPwm
    simp only [homingSeek, hq, beq_iff_eq] at hok ⊢
    exact output_of_motorSetOutput_ok hmotor hle hok

/-- An update that starts outside `HOMING` ends outside it. -/
lemma controlUpdate_state_ne_homing {dt : FloatValue} {now : UInt32} (hs : w.safety.Settled)
    (h : w.motion.data.state ≠ .homing) :
    (runtimeControlUpdate w dt now).2.motion.data.state ≠ .homing := by
  have hupdate : ∀ x : Axis, x.motion.data.state ≠ .homing →
      (motionUpdate x dt).2.motion.data.state ≠ .homing := by
    intro x hx
    rcases motionUpdate_cases x dt with ⟨y, -, hstate, heq⟩ | ⟨-, heq⟩ | ⟨out, pid, hmoving, -, heq⟩
    · rw [heq, fail_state, hstate]
      split_ifs
      · exact nofun
      · exact hx
    · rw [heq]
      rcases updated_state x.motion with hsame | ⟨-, hidle⟩
      · exact hsame ▸ hx
      · exact fun hhome => nomatch hidle.symm.trans hhome
    · rw [heq]
      intro hhome
      exact absurd (hmoving.symm.trans hhome) (by decide)
  unfold runtimeControlUpdate
  rw [if_pos h]
  dsimp only
  split_ifs
  · exact hupdate _ (reevaluate_state_ne_homing hs h)
  · exact hupdate _ h

omit [Rounding] in
/-- A controller that adopts a latch leaves `HOMING`. -/
lemma state_ne_homing_of_latched (h : w.safety.state = .fault ∨ w.safety.state = .estop) :
    (runtimeSafetySync w).motion.data.state ≠ .homing := by
  have hne : w.safety.state ≠ .idle := by rcases h with h | h <;> rw [h] <;> exact nofun
  rw [runtimeSafetySync_state hne]
  rcases h with h | h <;> rw [h] <;> exact nofun

/-- The update of a running attempt that stays in `HOMING` applies the duty of the seek. -/
lemma seekUpdate_seeks {inputs : GpioInputs} {now : UInt32}
    (hmotor : w.io.motor.initialized = true) (hrun : w.motion.data.homing.result = .running)
    (hok : (seekUpdate w inputs now).1 = true)
    (hhome : (seekUpdate w inputs now).2.motion.data.state = .homing) :
    now - w.motion.data.homing.startedMs < homingTimeoutMs ∧
      (seekUpdate w inputs now).2.motion.data.pwm = homingPwm ∧
      (seekUpdate w inputs now).2.io.motor.output = homingPwm := by
  rw [seekUpdate_result] at hok
  have hfinish : (seekUpdate w inputs now).2 =
      finishHoming { w with toAxis := (homingUpdate w.toAxis inputs now).2 } now := by
    simp [seekUpdate, hok]
  rw [hfinish] at hhome ⊢
  rcases homingUpdate_cases w.toAxis inputs now with ⟨heq, -⟩ | ⟨io, -, heq, -⟩ | hsame
  · exfalso
    have hresult : (homingUpdate w.toAxis inputs now).2.motion.data.homing.result = .timeout := by
      simp [heq, homingAbort, HomingSnapshot.abort, clearControl, MotionController.withElapsed,
        hrun]
    unfold finishHoming at hhome
    rw [if_pos hresult] at hhome
    exact state_ne_homing_of_latched (raiseTimeout_latched _ _) hhome
  · exfalso
    unfold finishHoming at hhome
    rw [heq] at hhome
    simp [grantContact, MotionController.reference] at hhome
  · have hgoes := hsame.result.trans hrun
    have hkeep : finishHoming { w with toAxis := (homingUpdate w.toAxis inputs now).2 } now =
        { w with toAxis := (homingUpdate w.toAxis inputs now).2 } := by
      simp [finishHoming, hgoes]
    rw [hkeep]
    exact homingUpdate_seeks hmotor hrun hok hgoes

/-- A latch that Motion's own reading leads to ends a seek. -/
lemma afterHazardRead_latched (hs : w.safety.Settled)
    (hread : hazardRead w.io.gpioReadInputs = true)
    (h : (afterHazardRead w).safety.state ≠ .idle) :
    (afterHazardRead w).motion.data.state ≠ .homing := by
  have heq : afterHazardRead w = reevaluate { w with io := w.io.afterGpio } := if_pos hread
  rw [heq] at h ⊢
  refine reevaluate_latched ?_ h
  exact hs

omit [Rounding] in
/-- An update that fails latches. -/
lemma updateFailed_state_ne_homing (w : World) (active : Bool) :
    (updateFailed w active).motion.data.state ≠ .homing := by
  unfold updateFailed
  exact state_ne_homing_of_latched (raiseInternal_latched _ _)

/-- **The end of a release in `HOMING`.**  A control section that ends in `HOMING` started there,
before the deadline, and has applied the duty of the seek. -/
theorem controlSection_seeks (hreg : w.Regular) (hgate : w.GateSafe)
    (hrun : w.motion.data.state = .homing → w.motion.data.homing.result = .running)
    (hhome : (controlSection w).2.motion.data.state = .homing) :
    w.motion.data.state = .homing ∧
      w.task.nowMs - w.motion.data.homing.startedMs < homingTimeoutMs ∧
      (controlSection w).2.motion.data.pwm = homingPwm ∧
      (controlSection w).2.io.motor.output = homingPwm := by
  cases hresult : (controlSection w).1 with
  | false =>
    rw [controlSection_of_false hresult] at hhome
    exact absurd hhome (updateFailed_state_ne_homing _ _)
  | true =>
    rw [controlSection_result] at hresult
    have hsection : (controlSection w).2 = (attemptUpdate (runtimeSafetySync w)).2 := by
      simp [controlSection, hresult]
    rw [hsection] at hhome ⊢
    unfold attemptUpdate at hresult hhome ⊢
    rw [runtimeSafetySync_task] at hresult hhome ⊢
    split_ifs at hresult hhome ⊢
    have hbefore : (runtimeSafetySync w).motion.data.state = .homing := by
      by_contra hne
      exact controlUpdate_state_ne_homing hreg.runtimeSafetySync.settled hne hhome
    have hidle := idle_of_runtimeSafetySync_homing hreg hbefore
    rw [runtimeSafetySync_of_idle hidle] at hbefore hresult hhome ⊢
    unfold runtimeControlUpdate at hresult hhome ⊢
    rw [if_neg (not_not.mpr hbefore), homingControl_eq] at hresult hhome ⊢
    split_ifs at hresult hhome ⊢ with hstop
    · exact absurd hhome (afterHazardRead_latched hreg.settled hstop.1 hstop.2)
    · have hm := afterHazardRead_motion (afterHazardRead_idle hidle hstop)
      have hmotor := hgate.afterHazardRead.motor.initialized
      rw [← hm] at hbefore hrun ⊢
      exact ⟨hbefore, seekUpdate_seeks hmotor (hrun hbefore) hresult hhome⟩

/-! ### The attempt of a seeking controller -/

/-- **Step lemma.**  Apart from the abort that follows a failed sample, every operation keeps the
attempt of a seeking controller running. -/
theorem Operation.running (h : Operation k w w') (hk : k ≠ .abort) (hs : w.safety.Settled)
    (hw : w.motion.data.state = .homing → w.motion.data.homing.result = .running)
    (hhome : w'.motion.data.state = .homing) : w'.motion.data.homing.result = .running := by
  by_cases hbefore : w.motion.data.state = .homing
  · have hcoherent : w.motion.Coherent := iff_of_true (hw hbefore) hbefore
    by_cases hsample : k = .sample
    · subst hsample
      cases h with
      | sample _ dt =>
        rcases motionSample_cases w.toAxis dt with ⟨y, hframe, -, heq⟩ | ⟨count, -, -, heq⟩
        · rw [heq, hframe.fail.homing]
          exact hw hbefore
        · rw [heq]
          exact hw hbefore
    · by_cases hreset : k = .reset
      · subst hreset
        cases h
        exact absurd hhome nofun
      · exact (h.coherent ⟨hsample, hk⟩ (fun heq => absurd heq hreset) hs hcoherent).mpr hhome
  · rcases h.state hs with h' | ⟨⟨now, rfl⟩, -⟩ | ⟨-, h'⟩ | h' | h' | h' | h'
    · exact absurd (h' ▸ hhome) hbefore
    · cases h with
      | home hidle h =>
        obtain ⟨-, -, -, heq⟩ := homingBegin_accepted h
        rw [heq]
        rfl
    all_goals exact absurd (h'.symm.trans hhome) nofun

/-- A sample that leaves an initialised controller in `HOMING` has been accepted. -/
lemma motionSample_of_homing {x : Axis} {dt : FloatValue} (hinit : x.motion.initialized = true)
    (hhome : (motionSample x dt).2.motion.data.state = .homing) :
    (motionSample x dt).1 = true ∧ badStep dt = false := by
  have hfail : ∀ y : Axis, y.motion.initialized = true →
      (fail y).motion.data.state ≠ .homing := by
    intro y hy
    rw [fail_state, if_pos hy]
    exact nofun
  unfold motionSample at hhome ⊢
  split_ifs at hhome ⊢ with hinput
  · exact absurd hhome (hfail x hinit)
  · rw [Bool.or_eq_true, not_or, Bool.not_eq_true (badStep dt)] at hinput
    cases hcount : x.io.encoderGetCount with
    | none =>
      rw [hcount] at hhome
      exact absurd hhome (hfail _ hinit)
    | some count =>
      rw [hcount] at hhome
      dsimp only at hhome ⊢
      split_ifs at hhome ⊢
      · exact absurd hhome (hfail _ hinit)
      · exact ⟨rfl, hinput.2⟩

/-- A controller that seeks runs an attempt, and its last sample was accepted. -/
structure World.Attempting (w : World) : Prop where
  ready : w.task.phase.early = false → w.motion.Ready
  running : w.motion.data.state = .homing → w.motion.data.homing.result = .running
  sampled : w.motion.data.state = .homing → w.task.phase = .reconcile → w.task.sampled = true

/-- A step that ends in `HOMING` does not follow a failed sample. -/
lemma not_abort_of_homing (hreg : w.Regular) (hfresh : w.Fresh) (hw : w.Attempting)
    (hhome : (step a w).motion.data.state = .homing) :
    ¬ (w.task.phase = .reconcile ∧ w.task.sampled = false) := by
  rintro ⟨hphase, hfailed⟩
  rcases startedMs_step hreg hfresh hhome with ⟨haccepts, -⟩ | ⟨-, hbefore, -⟩
  · obtain ⟨command, ⟨r, i, -, hexecute, -⟩, -⟩ := haccepts
    exact absurd (hphase.symm.trans hexecute) nofun
  · exact absurd ((hw.sampled hbefore hphase).symm.trans hfailed) nofun

/-- **Step lemma.**  Every step keeps the attempt of a seeking controller running. -/
theorem attempting_step (hreg : w.Regular) (hfresh : w.Fresh) (hw : w.Attempting) :
    (step a w).Attempting := by
  refine ⟨ready_step hreg hw.ready, fun hhome => ?_, fun hhome hphase => ?_⟩
  · have hboth : ((step a w).motion.data.state = .homing →
        (step a w).motion.data.homing.result = .running) ∧ (step a w).safety.Settled := by
      refine (operations_step hreg a).invariant
        (I := fun v => (v.motion.data.state = .homing → v.motion.data.homing.result = .running) ∧
          v.safety.Settled) (fun k v v' hk hop hv => ?_) ⟨hw.running, hreg.settled⟩
      refine ⟨hop.running ?_ hv.2 hv.1, hop.settled hv.2⟩
      rintro rfl
      exact not_abort_of_homing hreg hfresh hw hhome hk.2
    exact hboth.1 hhome
  · by_cases hother : ∀ r, a ≠ .motion r
    · obtain ⟨htask, hmotion⟩ := step_other (w := w) hother
      rw [htask] at hphase ⊢
      exact hw.sampled (hmotion ▸ hhome) hphase
    · push Not at hother
      obtain ⟨r, rfl⟩ := hother
      have hfollows := follows_motionStep w r
      simp only [step] at hhome hphase ⊢
      rw [hphase] at hfollows
      have hsample := hfollows.of_reconcile
      simp only [motionStep, hsample] at hhome ⊢
      have hinit := (hw.ready (by rw [hsample]; rfl)).initialized
      exact (motionSample_of_homing hinit hhome).1

/-! ### The age of an attempt -/

/-- How recent the acceptance of the attempt of a seeking controller is in each section of a
release, provided that a release that is too late loses its sample. -/
def World.Recent (w : World) (t : Times) : Prop :=
  match w.task.phase with
  | .create | .configure | .anchor => False
  | .begin | .clock =>
    w.task.first = false ∧ w.task.previousMs = WrappingClock.reading t.release ∧
      t.release < t.accepted + 40000
  | .sample => badStep w.task.dt = false → t.release < t.accepted + 44000
  | _ => t.release < t.accepted + 44000

/-- The clock has not advanced by a full wrap since the previous release. -/
def ShortGap (a : Action) (v : World × Times) : Prop :=
  (∃ r, a = .motion r ∧ v.1.task.phase = .clock) → v.1.task.first = true ∨
    v.1.io.trueTime < v.2.release + 2 ^ 32

instance (a : Action) (v : World × Times) : Decidable (ShortGap a v) :=
  inferInstanceAs (Decidable ((∃ r, a = .motion r ∧ v.1.task.phase = .clock) → _ ∨ _))

/-- A time step that a sample accepts is one of at most four seconds. -/
lemma gap_le_of_badStep {gap : UInt32}
    (h : badStep (.ofInt gap.toNat / .ofInt 1000) = false) : gap.toNat ≤ 4000 := by
  rcases Nat.eq_zero_or_pos gap.toNat with hzero | hpos
  · omega
  · have htop : |(gap.toNat : ℤ)| ≤ 2 ^ 32 := by
      have := gap.toNat_lt
      rw [abs_of_nonneg (by positivity)]
      omega
    obtain ⟨d, hd, hle⟩ := FloatValue.exists_ofInt_div (m := 1000) (n := gap.toNat) (by omega) htop
      (by norm_num) (by norm_num)
    rw [hd] at h
    simp only [badStep, FloatValue.isFinite_finite, Bool.not_true, Bool.false_or,
      Bool.or_eq_false_iff, decide_eq_false_iff_not] at h
    have hlow : 0 < d := by
      by_contra hneg
      exact h.1 (FloatValue.finite_le_finite.mpr (not_lt.mp hneg))
    have hhigh : d ≤ 1 := by
      by_contra hgt
      exact h.2 (FloatValue.one_lt_finite.mpr (not_le.mp hgt))
    rw [abs_of_pos hlow, Int.cast_natCast, abs_of_nonneg (by positivity)] at hle
    have hreal : (gap.toNat : ℚ) ≤ 4000 := by
      push_cast at hle
      linarith
    exact_mod_cast hreal

omit [Rounding] in
/-- The sections after the sample follow one another. -/
lemma Phase.Follows.of_sampled {p q : Phase} (h : p.Follows q) (hp : p.sampled = true)
    (hne : p ≠ .update) : q.sampled = true := by
  cases h with
  | create | configure | refused | anchor | begin | clock | sample => exact absurd hp nofun
  | update => exact absurd rfl hne
  | skip h | report h => rcases h with rfl | rfl <;> rfl
  | _ => rfl

omit [Rounding] in
/-- After the sample the attempt is recent. -/
lemma World.Recent.release_lt {t : Times} (h : w.Recent t) (hphase : w.task.phase.sampled = true) :
    t.release < t.accepted + 44000 := by
  unfold World.Recent at h
  cases hp : w.task.phase with
  | reconcile | receive | execute | report | update =>
    rw [hp] at h
    exact h
  | _ =>
    rw [hp] at hphase
    exact absurd hphase nofun

omit [Rounding] in
/-- After the sample nothing else is asked of an attempt. -/
lemma recent_of_release_lt {t : Times} (hphase : w.task.phase.sampled = true)
    (h : t.release < t.accepted + 44000) : w.Recent t := by
  unfold World.Recent
  cases hp : w.task.phase with
  | reconcile | receive | execute | report | update => exact h
  | _ =>
    rw [hp] at hphase
    exact absurd hphase nofun

/-- The reading of the clock finds a recent attempt, or one whose sample is lost. -/
lemma recent_taskClock {r : Option MotionCommand} {t : Times} (hw : w.Timed t)
    (hphase : w.task.phase = .clock) (hrecent : w.Recent t) (hgap : ShortGap (.motion r) (w, t))
    (hstep : badStep (taskClock w).task.dt = false) : w.io.trueTime < t.accepted + 44000 := by
  simp only [World.Recent, hphase] at hrecent
  obtain ⟨hfirst, hprevious, hlt⟩ := hrecent
  have hshort : w.io.trueTime < t.release + 2 ^ 32 := by
    rcases hgap ⟨r, rfl, hphase⟩ with h | h
    · exact absurd (hfirst.symm.trans h) nofun
    · exact h
  have hgap : (taskClock w).task.gap.toNat = (w.io.trueTime - t.release) % 2 ^ 32 := by
    have heq : (taskClock w).task.gap = w.io.platformTimeMs - w.task.previousMs := by
      simp [taskClock, hfirst]
    rw [heq, hprevious, Peripherals.platformTimeMs, WrappingClock.toNat_reading_sub hw.release_le]
  have hbound : (taskClock w).task.gap.toNat ≤ 4000 := gap_le_of_badStep hstep
  have hle := hw.release_le
  omega

omit [Rounding] in
/-- A release that keeps the state of a seek has begun before the deadline. -/
lemma release_lt_of_early {t : Times} (hw : w.Timed t) (hhome : w.motion.data.state = .homing)
    (hrecent : t.release < t.accepted + 44000)
    (hearly : w.task.nowMs - w.motion.data.homing.startedMs < homingTimeoutMs) :
    t.release < t.accepted + 40000 := by
  by_contra hlate
  have hle : t.accepted ≤ t.release := by omega
  rw [hw.nowMs, hw.startedMs hhome, UInt32.lt_iff_toNat_lt,
    WrappingClock.toNat_reading_sub hle] at hearly
  have hdeadline : homingTimeoutMs.toNat = 40000 := rfl
  omega

/-- What a run knows about a seek, with the observed times. -/
structure World.SeekInv (env : Environment) (w : World) (t : Times) : Prop where
  clocked : w.Clocked env t
  gate : w.GateSafe
  attempting : w.Attempting
  recent : w.motion.data.state = .homing → w.Recent t

/-- A step of the Motion task that accepts no `HOME` keeps a running attempt recent. -/
lemma recent_motionStep {env : Environment} {t : Times} {r : Option MotionCommand}
    (hw : w.SeekInv env t) (hgap : ShortGap (.motion r) (w, t))
    (hbefore : w.motion.data.state = .homing) (hhome : (motionStep w r).motion.data.state = .homing)
    {t' : Times} (haccepted : t'.accepted = t.accepted)
    (hclock : w.task.phase = .clock → t'.release = w.io.trueTime)
    (hother : w.task.phase ≠ .clock → t'.release = t.release) : (motionStep w r).Recent t' := by
  have hrecent := hw.recent hbefore
  have htimed := hw.clocked.timed
  by_cases hupdate : w.task.phase = .update
  · have hlt := hrecent.release_lt (by rw [hupdate]; rfl)
    simp only [motionStep, hupdate, taskUpdate] at hhome ⊢
    have hseeks := controlSection_seeks hw.clocked.regular hw.gate hw.attempting.running hhome
    have hrelease := hother (by rw [hupdate]; decide)
    refine ⟨rfl, ?_, ?_⟩
    · rw [hrelease, ← htimed.nowMs]
      exact congrArg MotionTask.nowMs (controlSection_task w)
    · rw [hrelease, haccepted]
      exact release_lt_of_early htimed hbefore hlt hseeks.2.1
  by_cases hsampled : w.task.phase.sampled = true
  · have hlt := hrecent.release_lt hsampled
    refine recent_of_release_lt ((follows_motionStep w r).of_sampled hsampled hupdate) ?_
    rw [hother (fun h => by rw [h] at hsampled; exact absurd hsampled (by decide)), haccepted]
    exact hlt
  cases hphase : w.task.phase with
  | create | configure | anchor =>
    simp only [World.Recent, hphase] at hrecent
  | begin =>
    simp only [World.Recent, hphase] at hrecent
    have hrelease := hother (by rw [hphase]; decide)
    simp only [motionStep, hphase, taskBegin]
    split_ifs
    · exact ⟨hrecent.1, hrelease ▸ hrecent.2.1, by rw [hrelease, haccepted]; exact hrecent.2.2⟩
    · exact ⟨hrecent.1, hrelease ▸ hrecent.2.1, by rw [hrelease, haccepted]; exact hrecent.2.2⟩
  | clock =>
    simp only [motionStep, hphase]
    intro hstep
    rw [hclock hphase, haccepted]
    exact recent_taskClock htimed hphase hrecent hgap hstep
  | sample =>
    simp only [World.Recent, hphase] at hrecent
    simp only [motionStep, hphase] at hhome ⊢
    have hinit := (hw.attempting.ready (by rw [hphase]; rfl)).initialized
    change t'.release < t'.accepted + 44000
    rw [hother (by rw [hphase]; decide), haccepted]
    exact hrecent (motionSample_of_homing hinit hhome).2
  | _ =>
    rw [hphase] at hsampled
    exact absurd rfl hsampled

/-- A step keeps a running attempt recent. -/
lemma recent_step {env : Environment} {t : Times} (hw : w.SeekInv env t)
    (hgap : ShortGap a (w, t)) (hhome : (step a w).motion.data.state = .homing) :
    (step a w).Recent (observeTimes a w t) := by
  have htimed := hw.clocked.timed
  have haccepted := observeTimes_accepted a w t
  rcases startedMs_step hw.clocked.regular hw.clocked.fresh hhome with
    ⟨haccepts, -⟩ | ⟨hnot, hbefore, -⟩
  · rw [if_pos haccepts] at haccepted
    obtain ⟨command, ⟨r, i, rfl, hphase, -⟩, -⟩ := haccepts
    rcases observeTimes_release (.motion r) w t with ⟨-, -, hclock, -⟩ | ⟨-, hrelease⟩
    · exact absurd (hphase.symm.trans hclock) nofun
    · have hle := htimed.release_le
      simp only [step, motionStep, hphase]
      change (observeTimes (.motion r) w t).release <
        (observeTimes (.motion r) w t).accepted + 44000
      omega
  · rw [if_neg hnot] at haccepted
    by_cases hother : ∀ r, a ≠ .motion r
    · have hrelease : (observeTimes a w t).release = t.release := by
        rcases observeTimes_release a w t with ⟨r, rfl, -⟩ | ⟨-, hrelease⟩
        · exact absurd rfl (hother r)
        · exact hrelease
      have hrecent := hw.recent hbefore
      unfold World.Recent at hrecent ⊢
      rwa [(step_other hother).1, hrelease, haccepted]
    · push Not at hother
      obtain ⟨r, rfl⟩ := hother
      refine recent_motionStep hw hgap hbefore hhome haccepted (fun hphase => ?_) fun hphase => ?_
      · rcases observeTimes_release (.motion r) w t with ⟨-, -, -, hrelease⟩ | ⟨hne, -⟩
        · exact hrelease
        · exact absurd hphase (hne r rfl)
      · rcases observeTimes_release (.motion r) w t with ⟨-, -, hclock, -⟩ | ⟨-, hrelease⟩
        · exact absurd hclock hphase
        · exact hrelease

/-- **Step lemma.**  Every step that does not come a wrap of the clock after the previous release
keeps what a run knows about a seek. -/
theorem seekInv_step {env : Environment} (hclock : Monotone env.clock) {t : Times}
    (hw : w.SeekInv env t) (hgap : ShortGap a (w, t)) :
    (step a w).SeekInv env (observeTimes a w t) where
  clocked := hw.clocked.step hclock a
  gate := (operations_step hw.clocked.regular a).invariant (fun _ _ _ _ hop hv => hop.gateSafe hv)
    hw.gate
  attempting := attempting_step hw.clocked.regular hw.clocked.fresh hw.attempting
  recent := recent_step hw hgap

/-- What a run of a monotone clock without such gaps knows about a seek. -/
lemma seekInv_runtime {env : Environment} (hclock : Monotone env.clock) {as : List Action}
    (h : Machine.Along (Machine.watchStep step observeTimes) ShortGap (runtimeInit env, {}) as) :
    (runtime env as).SeekInv env (times env as) := by
  have hinit : (runtimeInit env).SeekInv env {} :=
    ⟨clocked_runtimeInit env, gateSafe_runtimeInit env, ⟨nofun, nofun, nofun⟩, nofun⟩
  have hrun := Machine.run_invariant (I := fun v : World × Times => v.1.SeekInv env v.2)
    (fun a v hv hgap => seekInv_step hclock hv hgap) hinit h
  rwa [Machine.run_watchStep_fst] at hrun

/-! ### Between two publications -/

/-- Between the two worlds neither a seek has been published nor a duty applied. -/
structure World.Calm (w w' : World) : Prop where
  settled : w.safety.Settled → w'.safety.Settled
  state : w.safety.Settled → w'.rt.state = .homing → w.rt.state = .homing
  output : w'.io.motor.output = w.io.motor.output ∨ w'.io.motor.output = 0

omit [Rounding] in
lemma World.Calm.refl (w : World) : w.Calm w := ⟨id, fun _ => id, Or.inl rfl⟩

omit [Rounding] in
lemma World.Calm.trans (h : w.Calm w') (h' : w'.Calm w'') : w.Calm w'' where
  settled hs := h'.settled (h.settled hs)
  state hs hhome := h.state hs (h'.state (h.settled hs) hhome)
  output := by
    rcases h'.output with heq | hzero
    · rw [heq]
      exact h.output
    · exact Or.inr hzero

omit [Rounding] in
/-- A change that touches neither the published state nor the state of the safety manager. -/
lemma World.Calm.of_eq (hsafety : w'.safety.state = w.safety.state)
    (hstate : w'.rt.state = w.rt.state)
    (hout : w'.io.motor.output = w.io.motor.output ∨ w'.io.motor.output = 0) : w.Calm w' where
  settled hs := by
    unfold SafetyManager.Settled
    rwa [hsafety]
  state _ hhome := hstate ▸ hhome
  output := hout

omit [Rounding] in
/-- An enforcement publishes a latch only. -/
lemma calm_enforce (w : World) : w.Calm (runtimeSafetyEnforce w) where
  settled hs := by simpa [SafetyManager.Settled] using hs
  state hs hhome := by
    unfold runtimeSafetyEnforce recordLatched at hhome
    dsimp only at hhome
    split_ifs at hhome
    · exact absurd hhome hs.ne_homing
    · exact absurd hhome hs.ne_homing
    · exact hhome
  output := by
    rw [runtimeSafetyEnforce_motor]
    exact enforcedMotor_output w

omit [Rounding] in
/-- A call of the safety manager that leaves it settled is followed by an enforcement. -/
lemma calm_call {call : SafetyCall} {s : SafetyManager} (hs : w.safety.Settled → s.Settled) :
    w.Calm (runtimeSafetyEnforce (w.callSafety call s)) := by
  have hcall : w.Calm (w.callSafety call s) := ⟨hs, fun _ => id, Or.inl rfl⟩
  exact hcall.trans (calm_enforce _)

lemma calm_evaluate (w : World) : w.Calm (runtimeSafetyEvaluate w) := by
  have happly : w.Calm (applyEvaluation w) :=
    ⟨fun hs => hs.safetyEvaluate, fun _ => id, Or.inl rfl⟩
  exact happly.trans (calm_enforce _)

omit [Rounding] in
lemma calm_sync (w : World) : w.Calm (runtimeSafetySync w) := by
  refine World.Calm.of_eq (by simp) ?_ ?_
  · unfold runtimeSafetySync
    dsimp only
    split_ifs <;> rfl
  · rcases runtimeSafetySync_motor w with h | h
    · exact Or.inl (by rw [h])
    · exact Or.inr (by rw [h]; rfl)

lemma calm_reevaluate (w : World) : w.Calm (reevaluate w) := by
  have hpublish : w.Calm w.publish := .of_eq rfl rfl (Or.inl rfl)
  exact (hpublish.trans (calm_evaluate _)).trans (calm_sync _)

omit [Rounding] in
lemma calm_internal (w : World) (now : UInt32) : w.Calm (raiseInternal w now) :=
  calm_call fun _ => settled_trip

omit [Rounding] in
lemma calm_estop (w : World) : w.Calm (commandEstop w) := by
  have htime : w.Calm w.afterTime := .of_eq rfl rfl (Or.inl rfl)
  exact (htime.trans (calm_call fun _ => Or.inr (Or.inr rfl))).trans (calm_sync _)

lemma calm_reset (w : World) : w.Calm (commandReset w).2 := by
  unfold commandReset
  split_ifs
  · exact .refl w
  · refine (calm_evaluate w).trans ?_
    generalize runtimeSafetyEvaluate w = v
    dsimp only
    cases h : safetyReset v.safety with
    | none => exact .of_eq rfl rfl (Or.inl rfl)
    | some s =>
      obtain ⟨-, rfl⟩ := safetyReset_eq_some.mp h
      exact ⟨fun _ => Or.inl rfl, fun _ => id, Or.inr rfl⟩

lemma calm_home (w : World) : w.Calm (commandHome w).2 := by
  have hbegun : w.Calm { w.afterTime with
      toAxis := (homingBegin w.afterTime.toAxis w.io.platformTimeMs).2 }.publish := by
    refine .of_eq rfl rfl ?_
    unfold homingBegin
    split_ifs
    · exact Or.inl rfl
    · exact Or.inl rfl
    · exact Or.inr rfl
  unfold commandHome
  dsimp only
  split_ifs
  · exact (hbegun.trans (calm_evaluate _)).trans (calm_sync _)
  · exact hbegun

lemma calm_motionCommand (w : World) (command : MotionCommand) :
    w.Calm { w with toAxis := (motionCommand w.toAxis command).2 } := by
  refine .of_eq rfl rfl ?_
  rcases motionCommand_cases w.toAxis command with ⟨-, heq⟩ | ⟨-, heq⟩ | ⟨-, -, -, -, heq⟩
  · exact Or.inl (by rw [heq])
  · exact Or.inr (by rw [heq]; rfl)
  · exact Or.inl (by rw [heq])

/-- A command publishes no seek and applies no duty. -/
theorem calm_command (w : World) (command : MotionCommand) :
    w.Calm (runtimeSafetyCommand w command).2 := by
  unfold runtimeSafetyCommand
  split_ifs
  · exact calm_estop w
  · exact calm_reset w
  · exact .of_eq rfl rfl (Or.inr rfl)
  · exact .refl w
  · exact .refl w
  · exact calm_home w
  · exact .refl w
  · unfold commandDepart
    split_ifs
    · exact .refl w
    · exact (calm_motionCommand w command).trans (calm_reevaluate _)
  · exact calm_motionCommand w command

omit [Rounding] in
lemma calm_sampleFailed (w : World) : w.Calm (sampleFailed w) := by
  have hcount : ∀ v : World, v.Calm (if v.task.beforeSafety.active then v.countAbort else v) := by
    intro v
    split_ifs
    · exact .of_eq rfl rfl (Or.inl rfl)
    · exact .refl v
  have habort : ∀ v : World, v.Calm
      (if v.task.beforeSafety = .homing then v.onAxis fun x => homingAbort x .faulted else v) := by
    intro v
    split_ifs
    · exact .of_eq rfl rfl (Or.inr rfl)
    · exact .refl v
  exact ((hcount w).trans (habort _)).trans (calm_internal _ _)

/-- A section of the Motion task that is not the control update publishes no seek and applies no
duty. -/
lemma calm_motionStep {r : Option MotionCommand} (hphase : w.task.phase ≠ .update) :
    w.Calm (motionStep w r) := by
  unfold motionStep
  split
  next => exact .of_eq rfl rfl (Or.inr rfl)
  next =>
    unfold taskConfigure
    split
    · exact .refl w
    next x hx =>
      obtain ⟨-, pid, -, rfl⟩ := motionInit_some hx
      exact .of_eq rfl rfl (Or.inr rfl)
  next => exact .of_eq rfl rfl (Or.inl rfl)
  next =>
    unfold taskBegin
    split_ifs
    · exact .of_eq rfl rfl (Or.inr rfl)
    · exact .of_eq rfl rfl (Or.inl rfl)
  next => exact .of_eq rfl rfl (Or.inl rfl)
  next =>
    refine .of_eq rfl rfl ?_
    rcases motionSample_cases w.toAxis w.task.dt with ⟨y, -, -, heq⟩ | ⟨count, -, -, heq⟩
    · exact Or.inr (by simp [taskSample, heq])
    · exact Or.inl (by simp [taskSample, heq])
  next =>
    have hsync : ∀ v : World, v.Calm ((runtimeSafetySync v).goto (.receive 0)) := by
      intro v
      exact (calm_sync v).trans (.of_eq rfl rfl (Or.inl rfl))
    unfold taskReconcile
    split_ifs
    · exact hsync w
    · exact (calm_sampleFailed w).trans (hsync _)
  next =>
    unfold taskReceive
    split
    · exact .of_eq rfl rfl (Or.inl rfl)
    · dsimp only
      split_ifs <;> exact .of_eq rfl rfl (Or.inl rfl)
  next i command _ =>
    have hgoto : ∀ (v : World) phase, v.Calm (v.goto phase) := by
      intro v phase
      exact .of_eq rfl rfl (Or.inl rfl)
    unfold taskExecute
    dsimp only
    split_ifs
    · exact (calm_command w command).trans (hgoto _ _)
    · exact hgoto _ _
  next => exact .of_eq rfl rfl (Or.inl rfl)
  next h => exact absurd h hphase

/-- **Between two publications.**  A step of the tasks that is not the control update of a release
publishes no seek and applies no duty. -/
theorem calm_step (hown : a.own = true) (hne : ¬ Updates a w) : w.Calm (step a w) := by
  cases a with
  | motion r => exact calm_motionStep fun hphase => hne ⟨r, rfl, hphase⟩
  | safety =>
    refine (calm_evaluate w).trans ?_
    change (runtimeSafetyEvaluate w).Calm
      (if (runtimeSafetyEvaluate w).safety.healthy then _ else _)
    generalize runtimeSafetyEvaluate w = v
    split_ifs
    · exact .of_eq rfl rfl (Or.inl rfl)
    · exact .refl _
  | heartbeat id => exact .of_eq rfl rfl (Or.inl rfl)
  | request duty => exact absurd hown nofun

/-! ### The published state -/

/-- The start-up of the application does not lead into `HOMING`. -/
lemma app_step (happ : w.task.app ≠ .homing) : (step a w).task.app ≠ .homing := by
  by_cases hother : ∀ r, a ≠ .motion r
  · rwa [(step_other hother).1]
  · push Not at hother
    obtain ⟨r, rfl⟩ := hother
    have hstart : applicationStep w.task.app ≠ .homing := by
      cases h : w.task.app with
      | homing => exact absurd h happ
      | _ => decide
    simp only [step]
    unfold motionStep
    split
    next => (intro h; cases h)
    next =>
      unfold taskConfigure
      split <;> exact happ
    next => exact happ
    next =>
      unfold taskBegin
      split_ifs
      · exact hstart
      · exact happ
    next => exact happ
    next => exact happ
    next =>
      have htask : (if w.task.sampled then w else sampleFailed w).task = w.task := by
        split_ifs <;> simp
      simpa [taskReconcile, World.goto, htask] using happ
    next =>
      unfold taskReceive
      split
      · exact happ
      · dsimp only
        split_ifs <;> exact happ
    next i command _ =>
      have htask : (if w.task.app = .idle then runtimeSafetyCommand w command
          else (.invalidState, w)).2.task = w.task := by
        split_ifs <;> simp
      simpa [taskExecute, World.goto, htask] using happ
    next => exact happ
    next => simpa [taskUpdate, publishRelease] using happ

/-- The application of a reachable world is not in `HOMING`. -/
lemma app_runtime (env : Environment) (as : List Action) : (runtime env as).task.app ≠ .homing := by
  have hinit : (runtimeInit env).task.app ≠ .homing := nofun
  exact Machine.run_invariant_of_forall (I := fun v : World => v.task.app ≠ .homing)
    (fun _ _ hv => app_step hv) hinit

/-- A release that publishes the state of a seek leaves the controller in it. -/
lemma state_of_published (happ : w.task.app ≠ .homing) (hreg : w.Regular) (hupdates : Updates a w)
    (hstate : (step a w).rt.state = .homing) :
    step a w = publishRelease (controlSection w).2 (controlSection w).1 ∧
      (controlSection w).2.motion.data.state = .homing := by
  have hsettled := (hreg.step a).settled
  obtain ⟨r, rfl, hphase⟩ := hupdates
  have hstep : step (.motion r) w = publishRelease (controlSection w).2 (controlSection w).1 := by
    simp only [step, motionStep, hphase, taskUpdate]
  refine ⟨hstep, ?_⟩
  rw [hstep] at hstate hsettled
  unfold publishRelease at hstate hsettled
  dsimp only at hstate hsettled
  rw [controlSection_task] at hstate
  split_ifs at hstate
  · exact absurd hstate hsettled.ne_homing
  · exact hstate
  · exact absurd hstate happ

/-- While the published state is that of a seek, the duty of the seek is applied, or none. -/
def World.Seeks (w : World) : Prop :=
  w.rt.state = .homing → w.io.motor.output = 0 ∨ w.io.motor.output = homingPwm

/-- **Step lemma.**  Every step of the tasks keeps the duty of a published seek. -/
theorem seeks_step (hown : a.own = true) (hreg : w.Regular) (hgate : w.GateSafe)
    (hattempt : w.Attempting) (happ : w.task.app ≠ .homing) (hw : w.Seeks) : (step a w).Seeks := by
  intro hstate
  by_cases hupdates : Updates a w
  · obtain ⟨hstep, hhome⟩ := state_of_published happ hreg hupdates hstate
    rw [hstep]
    exact Or.inr (controlSection_seeks hreg hgate hattempt.running hhome).2.2.2
  · have hcalm := calm_step hown hupdates
    rcases hcalm.output with heq | hzero
    · rw [heq]
      exact hw (hcalm.state hreg.settled hstate)
    · exact Or.inl hzero

/-- In every run of the tasks alone the duty of a published seek is applied, or none. -/
lemma seeks_runtime (env : Environment) {as : List Action} (hown : ∀ a ∈ as, a.own = true) :
    (runtime env as).Seeks := by
  let I : World → Prop := fun v =>
    v.Fresh ∧ v.GateSafe ∧ v.Attempting ∧ v.task.app ≠ .homing ∧ v.Seeks
  have hinit : I (runtimeInit env) :=
    ⟨fun _ => rfl, gateSafe_runtimeInit env, ⟨nofun, nofun, nofun⟩, nofun, nofun⟩
  have hstep : ∀ a v, v.Regular → a.own = true → I v → I (step a v) := by
    rintro a v hreg ha ⟨hfresh, hgate, hattempt, happ, hseeks⟩
    refine ⟨fresh_step hfresh, ?_, attempting_step hreg hfresh hattempt, app_step happ,
      seeks_step ha hreg hgate hattempt happ hseeks⟩
    exact (operations_step hreg a).invariant (fun _ _ _ _ hop hv => hop.gateSafe hv) hgate
  have hrun : I (runtime env as) :=
    runtime_invariant_along hinit hstep (Machine.along_of_forall_mem hown)
  exact hrun.2.2.2.2

/-- **The bounds of a seek.**  In a run of a monotone clock in which no release comes a wrap of the
clock after the previous one, a release that publishes `HOMING` has begun less than 40 s after the
attempt was accepted, and publishes the duty of the seek.  Whenever the published state is `HOMING`
in a run of the tasks alone, that duty is applied, or none. -/
theorem seek_bounded (env : Environment) (as : List Action) :
    (Monotone env.clock →
      Machine.Along (Machine.watchStep step observeTimes) ShortGap (runtimeInit env, {}) as →
      ∀ a, Updates a (runtime env as) → (step a (runtime env as)).rt.state = .homing →
        (times env as).release < (times env as).accepted + 40000 ∧
          (step a (runtime env as)).rt.motion.pwm = homingPwm) ∧
    ((∀ a ∈ as, a.own = true) → (runtime env as).rt.state = .homing →
      (runtime env as).io.motor.output = 0 ∨ (runtime env as).io.motor.output = homingPwm) := by
  refine ⟨fun hclock hgaps a hupdates hstate => ?_, fun hown => seeks_runtime env hown⟩
  have hinv := seekInv_runtime hclock hgaps
  obtain ⟨hstep, hhome⟩ :=
    state_of_published (app_runtime env as) hinv.clocked.regular hupdates hstate
  obtain ⟨hbefore, hearly, hpwm, -⟩ :=
    controlSection_seeks hinv.clocked.regular hinv.gate hinv.attempting.running hhome
  obtain ⟨r, -, hphase⟩ := hupdates
  refine ⟨?_, ?_⟩
  · refine release_lt_of_early hinv.clocked.timed hbefore ?_ hearly
    exact (hinv.recent hbefore).release_lt (by rw [hphase]; rfl)
  · rw [hstep]
    exact hpwm

set_option maxRecDepth 4000 in
omit [Rounding] in
/-- The release that accepts a `HOME` publishes `HOMING`, and the seek is driven. -/
theorem seek_bounded_home :
    (@times Binary32.rounding slowSeek (startUp ++ (release [⟨.home, 0⟩]).dropLast)).release <
        (@times Binary32.rounding slowSeek (startUp ++ (release [⟨.home, 0⟩]).dropLast)).accepted +
          40000 ∧
      ((runtime32 slowSeek (startUp ++ release [⟨.home, 0⟩])).io.motor.output = 0 ∨
        (runtime32 slowSeek (startUp ++ release [⟨.home, 0⟩])).io.motor.output =
          @homingPwm Binary32.rounding) := by
  have hclock : Monotone slowSeek.clock := by
    intro m n hmn
    simp only [slowSeek]
    omega
  have hseek := @seek_bounded Binary32.rounding slowSeek
    (startUp ++ (release [⟨.home, 0⟩]).dropLast)
  have hafter := @seek_bounded Binary32.rounding slowSeek (startUp ++ release [⟨.home, 0⟩])
  exact ⟨(hseek.1 hclock (by decide +kernel) (.motion none) (by decide +kernel)
    (by decide +kernel)).1, hafter.2 (by decide +kernel) (by decide +kernel)⟩

end MotionFirmware
