import MotionFirmware.Control.PidBounds
import MotionFirmware.Rtos.MotorGate
import MotionFirmware.Rtos.Phases
import MotionFirmware.Rtos.RecordedCalls

/-!
# Integrity failures

An internal fault is meant for failed readings, time steps and arithmetic.  As long as these never
fail, a release that has sampled finds a controller that is ready to be updated, and the only way to
an internal fault is a control update that meets a closed gate, or inputs that the safety manager
has not seen, while the safety manager is still in `IDLE`.
-/

namespace MotionFirmware

variable [Rounding] {k : OperationKind} {w w' : World} {a : Action}

/-! ### Controllers after `motion_init` -/

/-- What `motion_init` with the default configuration establishes for good. -/
structure MotionController.Ready (m : MotionController) : Prop where
  initialized : m.initialized = true
  pidInitialized : m.pid.initialized = true
  pidConfig : m.pid.config = motionDefaultConfig.pid

/-- The controller that `motion_init` leaves is ready. -/
lemma ready_of_motionInit {x x' : Axis} (h : motionInit x motionDefaultConfig = some x') :
    x'.motion.Ready := by
  unfold motionInit at h
  split_ifs at h
  obtain ⟨pid, hpid, rfl⟩ := Option.map_eq_some_iff.mp h
  unfold pidInit at hpid
  split_ifs at hpid
  obtain rfl := Option.some.inj hpid
  exact ⟨rfl, rfl, rfl⟩

lemma MotionController.Ready.of_frame {x y : Axis} (h : x.motion.Ready) (hframe : x.Frame y) :
    y.motion.Ready :=
  ⟨hframe.initialized.trans h.initialized, hframe.pidInitialized.trans h.pidInitialized,
    hframe.pidConfig.trans h.pidConfig⟩

lemma MotionController.Ready.of_keeps {m m' : MotionController} (h : m.Ready)
    (hkeeps : m.Keeps m') :
    m'.Ready :=
  ⟨hkeeps.initialized.trans h.initialized, hkeeps.pidInitialized.trans h.pidInitialized,
    hkeeps.pidConfig.trans h.pidConfig⟩

/-- Adopting a latch keeps a controller ready. -/
lemma ready_runtimeSafetySync (h : w.motion.Ready) : (runtimeSafetySync w).motion.Ready := by
  obtain ⟨-, hinit, hconfig, hpid⟩ := runtimeSafetySync_config w
  exact ⟨hinit.trans h.initialized, hpid.trans h.pidInitialized, hconfig.trans h.pidConfig⟩

/-- **Step lemma.**  Every operation keeps a controller ready. -/
theorem Operation.ready (h : Operation k w w') (hw : w.motion.Ready) : w'.motion.Ready := by
  cases h with
  | bookkeeping h => rwa [h.motion]
  | configure h => exact ready_of_motionInit h
  | sample _ dt =>
    rcases motionSample_cases w.toAxis dt with ⟨y, hframe, -, heq⟩ | ⟨count, -, -, heq⟩
    · rw [heq]
      exact hw.of_frame hframe.fail
    · rw [heq]
      exact { hw with }
  | evaluate => rwa [runtimeSafetyEvaluate_motion]
  | sync => exact ready_runtimeSafetySync hw
  | estop => rwa [raiseEstop_motion]
  | internalFault => rwa [raiseInternal_motion]
  | home hidle h =>
    obtain ⟨-, -, -, heq⟩ := homingBegin_accepted h
    rw [heq]
    exact { hw with }
  | halt => exact hw.of_keeps (halt_keeps w.motion)
  | @drive _ dt =>
    have hupdated := hw.of_keeps (updated_keeps w.motion)
    unfold motionUpdate motionDrive
    dsimp only
    split_ifs
    · exact hw.of_frame (Axis.Frame.refl w.toAxis).fail
    · split
      · exact hupdated.of_frame (Axis.Frame.refl { w.toAxis with motion := w.motion.updated }).fail
      · next out pid hstep =>
        obtain ⟨hconfig, hinit⟩ := pidUpdate_config hstep
        have hdriven : (w.motion.updated.withOutput out pid).Ready :=
          ⟨hupdated.initialized, hinit.trans hupdated.pidInitialized,
            hconfig.trans hupdated.pidConfig⟩
        split_ifs
        · exact hdriven
        · exact MotionController.Ready.of_frame (x := ⟨_, w.motion.updated.withOutput out pid⟩)
            hdriven (Axis.Frame.refl _).fail
    · exact { hupdated with }
  | seek _ hsame =>
    exact ⟨hsame.initialized.trans hw.initialized, hsame.pidInitialized.trans hw.pidInitialized,
      hsame.pidConfig.trans hw.pidConfig⟩
  | @expire _ now =>
    refine ready_runtimeSafetySync ?_
    rw [raiseTimeout_motion]
    exact { hw with }
  | _ => exact { hw with }

/-! ### Releases that have sampled -/

/-- The section comes after the sample of its release. -/
def Phase.sampled : Phase → Bool
  | .reconcile | .receive _ | .execute _ _ | .report _ _ | .update => true
  | _ => false

/-- Every reading of the inputs and of the encoder succeeds. -/
structure Environment.Reliable (env : Environment) : Prop where
  gpio : ∀ n, (env.gpio n).isSome = true
  rawCount : ∀ n, (env.rawCount n).isSome = true

/-- The count that is read next differs from the previous one by half the range. -/
def halfRangeJump (w : World) : Bool :=
  match w.io.encoderGetCount with
  | some count => w.motion.sampled && w.motion.deltaBits count == 2147483648
  | none => false

/-- A sample is taken with a time step of `(0, 1]`, and its count does not differ from the previous
one by half the range. -/
def CleanSample (a : Action) (w : World) : Prop :=
  Samples a w → 0 < w.task.dt ∧ w.task.dt ≤ 1 ∧ halfRangeJump w = false

instance (a : Action) (w : World) : Decidable (CleanSample a w) :=
  inferInstanceAs (Decidable (_ → _ ∧ _ ∧ _ = false))

/-- A controller that has been initialised is ready, a release computes its time step from the gap,
and a release that has sampled can be updated. -/
structure World.Prepared (w : World) : Prop where
  ready : w.task.phase.early = false → w.motion.Ready
  clocked : w.task.phase = .sample → w.task.dt = .ofInt w.task.gap.toNat / .ofInt 1000
  sampled : w.task.phase.sampled = true →
    w.task.sampled = true ∧ w.motion.data.feedbackValid = true ∧ badStep w.task.dt = false

omit [Rounding] in
/-- A time step of `(0, 1]` is not refused. -/
lemma badStep_eq_false {dt : FloatValue} (hpos : 0 < dt) (hle : dt ≤ 1) : badStep dt = false := by
  cases dt with
  | finite q =>
    rw [FloatValue.zero_lt_finite] at hpos
    rw [FloatValue.finite_le_one] at hle
    have hnot : ¬ FloatValue.finite q ≤ 0 := by
      intro h
      exact not_le.mpr hpos (FloatValue.finite_le_finite.mp h)
    simp [badStep, hnot, hle]
  | posInf => exact absurd hle nofun
  | negInf => exact absurd hpos nofun
  | nan => exact absurd hpos nofun

/-- The velocity estimate over a positive time step is finite. -/
lemma isFinite_estimate {m : MotionController} {count : Int32} {gap : UInt32} {dt : FloatValue}
    (hdt : dt = .ofInt gap.toNat / .ofInt 1000) (hpos : 0 < dt) (hle : dt ≤ 1) :
    (m.estimate count dt).isFinite = true := by
  unfold MotionController.estimate
  split_ifs
  · have hgap : (gap.toNat : ℤ) ≠ 0 := by
      intro hzero
      rw [hzero, FloatValue.ofInt_zero_div_ofInt (by norm_num) (by norm_num)] at hdt
      rw [hdt] at hpos
      exact absurd hpos (by decide)
    have htop : |(gap.toNat : ℤ)| ≤ 2 ^ 32 := by
      have := gap.toNat_lt
      rw [abs_of_nonneg (by positivity)]
      omega
    obtain ⟨d, hd, hlow⟩ := FloatValue.exists_ofInt_div_ofInt (m := 1000) hgap htop (by norm_num)
      (by norm_num)
    rw [hdt, hd] at hpos hle ⊢
    rw [FloatValue.zero_lt_finite] at hpos
    rw [FloatValue.finite_le_one] at hle
    rw [abs_of_pos hpos] at hlow
    refine FloatValue.isFinite_ofInt_div ?_ hlow hle
    have := (signedBits (m.deltaBits count)).le_toInt
    have := (signedBits (m.deltaBits count)).toInt_lt
    rw [abs_le]
    omega
  · rfl

/-- A clean sample of a prepared world is accepted. -/
lemma motionSample_of_clean {env : Environment} (henv : env.Reliable) (hio : w.io.env = env)
    (hw : w.Prepared) (hsample : Samples a w) (hclean : CleanSample a w) :
    (motionSample w.toAxis w.task.dt).1 = true ∧
      (motionSample w.toAxis w.task.dt).2.motion.data.feedbackValid = true ∧
      badStep w.task.dt = false := by
  obtain ⟨hpos, hle, hjump⟩ := hclean hsample
  obtain ⟨r, -, hphase⟩ := hsample
  have hstep := badStep_eq_false hpos hle
  have hready := hw.ready (by rw [hphase]; rfl)
  have hraw : (w.io.env.rawCount w.io.rawReads).isSome = true := hio ▸ henv.rawCount _
  obtain ⟨raw, hraw⟩ := Option.isSome_iff_exists.mp hraw
  have hcount : w.io.encoderGetCount = some (signedBits (raw + w.io.referenceOffset)) :=
    congrArg _ hraw
  have hgood : w.motion.badCount (signedBits (raw + w.io.referenceOffset)) w.task.dt = false := by
    unfold MotionController.badCount
    rw [isFinite_estimate (hw.clocked hphase) hpos hle]
    simpa [halfRangeJump, hcount] using hjump
  unfold motionSample
  rw [if_neg (by simp [hready.initialized, hstep]), hcount]
  dsimp only
  rw [if_neg (by simp [hgood])]
  exact ⟨rfl, rfl, hstep⟩

/-- An operation that neither initialises nor samples nor fails keeps the feedback valid. -/
lemma Operation.feedbackValid (h : Operation k w w')
    (hk : k ≠ .configure ∧ k ≠ .sample ∧ k ≠ .drive false)
    (hw : w.motion.data.feedbackValid = true) : w'.motion.data.feedbackValid = true := by
  cases h with
  | bookkeeping h => rwa [h.motion]
  | configure => exact absurd rfl hk.1
  | sample => exact absurd rfl hk.2.1
  | evaluate => rwa [runtimeSafetyEvaluate_motion]
  | sync => exact (runtimeSafetySync_sampling w).1.trans hw
  | estop => rwa [raiseEstop_motion]
  | internalFault => rwa [raiseInternal_motion]
  | home hidle h =>
    obtain ⟨-, -, -, heq⟩ := homingBegin_accepted h
    rw [heq]
    exact hw
  | halt => exact (halt_keeps w.motion).feedbackValid.trans hw
  | @drive _ dt =>
    have hupdated := (updated_keeps w.motion).feedbackValid.trans hw
    rcases motionUpdate_cases w.toAxis dt with ⟨y, -, -, heq⟩ | ⟨-, heq⟩ | ⟨out, pid, -, -, heq⟩
    · exact absurd (by rw [heq]) hk.2.2
    · rw [heq]
      exact hupdated
    · rw [heq]
      exact hupdated
  | seek _ hsame => exact hsame.feedbackValid.trans hw
  | @expire _ now =>
    refine (runtimeSafetySync_sampling _).1.trans ?_
    rw [raiseTimeout_motion]
    exact hw
  | _ => exact hw

omit [Rounding] in
/-- A section that comes after the sample follows the sample, or a section after it that is not the
control update. -/
lemma Phase.Follows.sampled {p q : Phase} (h : p.Follows q) (hq : q.sampled = true) :
    p = .sample ∨ p.sampled = true ∧ p ≠ .update := by
  cases h with
  | sample => exact Or.inl rfl
  | create | configure | refused | anchor | begin | clock | update => exact absurd hq nofun
  | _ => exact Or.inr ⟨rfl, nofun⟩

/-- A step of a release that has sampled, before its control update, takes no failure path. -/
lemma not_fails_of_sampled (hsampled : w.task.sampled = true) (hne : w.task.phase ≠ .update) :
    ¬ Fails a w := by
  rintro ⟨-, ⟨-, hfailed⟩ | ⟨hupdate, -⟩⟩
  · exact absurd (hsampled.symm.trans hfailed) nofun
  · exact hne hupdate

/-- The sections between a sample that is accepted and the control update keep the feedback
valid. -/
lemma feedbackValid_motionStep {r : Option MotionCommand} (hreg : w.Regular)
    (hphase : w.task.phase.sampled = true) (hne : w.task.phase ≠ .update)
    (hsampled : w.task.sampled = true) (hvalid : w.motion.data.feedbackValid = true) :
    (step (.motion r) w).motion.data.feedbackValid = true := by
  refine (operations_step hreg (.motion r)).invariant
    (I := fun v => v.motion.data.feedbackValid = true) (fun k v v' hk hop hv => ?_) hvalid
  refine hop.feedbackValid ⟨?_, ?_, ?_⟩ hv
  · rintro rfl
    obtain ⟨⟨r', -, hconfigure⟩, -⟩ := hk
    rw [hconfigure] at hphase
    exact absurd hphase nofun
  · rintro rfl
    obtain ⟨r', -, hsample⟩ := hk
    rw [hsample] at hphase
    exact absurd hphase nofun
  · rintro rfl
    exact not_fails_of_sampled hsampled hne (hk rfl)

/-- The section that leaves the start-up behind leaves a ready controller. -/
lemma ready_of_early {r : Option MotionCommand} (hearly : w.task.phase.early = true)
    (hlate : (step (.motion r) w).task.phase.early = false) :
    (step (.motion r) w).motion.Ready := by
  cases hphase : w.task.phase with
  | create =>
    simp only [step, motionStep, hphase, taskCreate] at hlate
    exact absurd hlate (by decide)
  | configure =>
    have hstep : step (.motion r) w = taskConfigure w := by simp only [step, motionStep, hphase]
    rw [hstep] at hlate ⊢
    unfold taskConfigure at hlate ⊢
    split at hlate
    · rw [hphase] at hlate
      exact absurd hlate (by decide)
    next x hinit => exact ready_of_motionInit hinit
  | _ =>
    rw [hphase] at hearly
    exact absurd hearly (fun h => by cases h)

/-- **Step lemma.**  Once it has been initialised, a controller stays ready. -/
lemma ready_step (hreg : w.Regular) (hw : w.task.phase.early = false → w.motion.Ready)
    (hlate : (step a w).task.phase.early = false) : (step a w).motion.Ready := by
  by_cases hother : ∀ r, a ≠ .motion r
  · obtain ⟨htask, hmotion⟩ := step_other (w := w) hother
    rw [hmotion]
    exact hw (htask ▸ hlate)
  · push Not at hother
    obtain ⟨r, rfl⟩ := hother
    cases hearly : w.task.phase.early with
    | false =>
      exact (operations_step hreg (.motion r)).invariant (fun _ _ _ _ hop hv => hop.ready hv)
        (hw hearly)
    | true => exact ready_of_early hearly hlate

/-- **Step lemma.**  Every step keeps a world prepared, as long as readings succeed and samples are
clean. -/
theorem prepared_step {env : Environment} (henv : env.Reliable) (hio : w.io.env = env)
    (hreg : w.Regular) (hclean : CleanSample a w) (hw : w.Prepared) : (step a w).Prepared := by
  by_cases hother : ∀ r, a ≠ .motion r
  · obtain ⟨htask, hmotion⟩ := step_other (w := w) hother
    refine ⟨?_, ?_, ?_⟩
    · rw [htask, hmotion]
      exact hw.ready
    · rw [htask]
      exact hw.clocked
    · rw [htask, hmotion]
      exact hw.sampled
  push Not at hother
  obtain ⟨r, rfl⟩ := hother
  have hfollows := follows_motionStep w r
  refine ⟨ready_step hreg hw.ready, fun hphase => ?_, fun hphase => ?_⟩
  · simp only [step] at hphase ⊢
    rw [hphase] at hfollows
    simp only [motionStep, hfollows.of_sample]
    rfl
  · rcases hfollows.sampled hphase with hsample | ⟨hbefore, hne⟩
    · obtain ⟨haccept, hvalid, hdt⟩ := motionSample_of_clean henv hio hw ⟨r, rfl, hsample⟩ hclean
      simp only [step, motionStep, hsample]
      exact ⟨haccept, hvalid, hdt⟩
    · obtain ⟨hsampled, hvalid, hdt⟩ := hw.sampled hbefore
      obtain ⟨hclock, hsample⟩ := motionStep_task w r
      have hphases : w.task.phase ≠ .clock ∧ w.task.phase ≠ .sample := by
        refine ⟨?_, ?_⟩ <;> intro heq <;> rw [heq] at hbefore <;> exact absurd hbefore (by decide)
      have hstep : (step (.motion r) w).task.dt = w.task.dt := (hclock hphases.1).2.1
      exact ⟨(hsample hphases.2).trans hsampled,
        feedbackValid_motionStep hreg hbefore hne hsampled hvalid, hstep ▸ hdt⟩

/-! ### Updates that meet a closed gate -/

/-- The world in which the update of a controller outside `HOMING` runs. -/
def driveWorld (w : World) : World :=
  let v := runtimeSafetySync w
  if v.safety.homeContact then reevaluate v else v

/-- The values that the PID step of the update computes are finite. -/
def FinitePid (a : Action) (w : World) : Prop :=
  Updates a w → (driveWorld w).motion.updated.data.state = .moving →
    pidFinite (driveWorld w).motion.updated.pid
      (.ofInt (driveWorld w).motion.updated.data.target.toInt)
      (.ofInt (driveWorld w).motion.updated.data.position.toInt) w.task.dt = true

instance (a : Action) (w : World) : Decidable (FinitePid a w) :=
  inferInstanceAs (Decidable (_ → _ → _ = true))

/-- The gate refuses the duty that an update in `MOVING` asks for. -/
def DriveRefused (x : Axis) (dt : FloatValue) : Prop :=
  x.motion.updated.data.state = .moving ∧
    (x.motion.updated.pidStep dt).any (fun out => x.io.motor.refuses out.1) = true

instance (x : Axis) (dt : FloatValue) : Decidable (DriveRefused x dt) :=
  inferInstanceAs (Decidable (_ ∧ _ = true))

/-- An update in `HOMING` has read an E-stop or the positive limit, or the gate refuses the duty of
the seek that goes on. -/
def SeekRefused (x : Axis) (inputs : GpioInputs) (now : UInt32) : Prop :=
  inputs.estop = true ∨ inputs.positiveLimit = true ∨
    (now - x.motion.data.homing.startedMs < homingTimeoutMs ∧ inputs.negativeLimit = false ∧
      x.io.motor.refuses homingPwm = true)

instance (x : Axis) (inputs : GpioInputs) (now : UInt32) : Decidable (SeekRefused x inputs now) :=
  inferInstanceAs (Decidable (_ ∨ _ ∨ _ ∧ _ ∧ _ = true))

/-- The seek is refused although the safety manager, having been shown what Motion has read, stays
in `IDLE`. -/
def SeekObstructed (w : World) : Prop :=
  (afterHazardRead w).safety.state = .idle ∧
    SeekRefused (afterHazardRead w).toAxis (w.io.gpioReadInputs.getD {}) w.task.nowMs

instance (w : World) : Decidable (SeekObstructed w) := inferInstanceAs (Decidable (_ ∧ _))

/-- The control update of the step is obstructed: its seek or its drive is refused. -/
def Obstructed (a : Action) (w : World) : Prop :=
  Updates a w ∧
    if w.safety.state = .idle ∧ w.motion.data.state = .homing then SeekObstructed w
    else DriveRefused (driveWorld w).toAxis w.task.dt

instance (a : Action) (w : World) : Decidable (Obstructed a w) :=
  inferInstanceAs (Decidable (Updates a w ∧
    if w.safety.state = .idle ∧ w.motion.data.state = .homing then SeekObstructed w
    else DriveRefused (driveWorld w).toAxis w.task.dt))

omit [Rounding] in
/-- The duty of a seek is in range. -/
lemma exists_homingPwm [Rounding] : ∃ q : ℚ, homingPwm = .finite q ∧ |q| ≤ 1 := by
  obtain ⟨r, hr, hpos, hle⟩ := FloatValue.exists_ofRat (q := 3 / 10) (by norm_num) (by norm_num)
  refine ⟨-r, by rw [homingPwm, hr, FloatValue.neg_finite], ?_⟩
  rw [abs_neg, abs_of_pos hpos]
  exact hle

/-- The output of a ready controller is in range. -/
lemma exists_pidStep_output {m : MotionController} (hm : m.Ready) {dt : FloatValue}
    {out : FloatValue × PidController} (h : m.pidStep dt = some out) :
    ∃ q : ℚ, out.1 = .finite q ∧ |q| ≤ 1 := by
  obtain ⟨r, hr, hpos, hle⟩ := FloatValue.exists_ofRat (q := 8 / 10) (by norm_num) (by norm_num)
  have hmin : m.pid.config.outputMin = .finite (-r) := by
    rw [hm.pidConfig]
    exact (congrArg Neg.neg hr :)
  have hmax : m.pid.config.outputMax = .finite r := by
    rw [hm.pidConfig]
    exact hr
  obtain ⟨q, hq, hl, hu⟩ := exists_pidUpdate_output hmin hmax (by linarith) h
  exact ⟨q, hq, abs_le.mpr ⟨by linarith, by linarith⟩⟩

/-- The PID step of a ready controller succeeds while its arithmetic stays finite. -/
lemma isSome_pidStep {m : MotionController} (hm : m.Ready) {dt : FloatValue}
    (hdt : badStep dt = false) :
    (m.pidStep dt).isSome =
      pidFinite m.pid (.ofInt m.data.target.toInt) (.ofInt m.data.position.toInt) dt := by
  have hint : ∀ n : Int32, (FloatValue.ofInt n.toInt).isFinite = true := by
    intro n
    have hbound : |n.toInt| ≤ 2 ^ 32 := by
      have := n.le_toInt
      have := n.toInt_lt
      rw [abs_le]
      omega
    obtain ⟨r, hr, -⟩ := FloatValue.exists_ofInt hbound
    rw [hr]
    rfl
  simp only [badStep, Bool.or_eq_false_iff, Bool.not_eq_false', decide_eq_false_iff_not] at hdt
  exact isSome_pidUpdate hm.pidInitialized (hint _) (hint _) hdt.1.1 hdt.1.2

/-- An update of a ready controller with valid feedback fails only where the gate refuses its
duty. -/
lemma motionUpdate_eq_false {x : Axis} {dt : FloatValue} (hm : x.motion.Ready)
    (hvalid : x.motion.data.feedbackValid = true) (hdt : badStep dt = false)
    (hmotor : x.io.motor.initialized = true)
    (hfinite : x.motion.updated.data.state = .moving →
      pidFinite x.motion.updated.pid (.ofInt x.motion.updated.data.target.toInt)
        (.ofInt x.motion.updated.data.position.toInt) dt = true) :
    (motionUpdate x dt).1 = false ↔ DriveRefused x dt := by
  have hready := hm.of_keeps (updated_keeps x.motion)
  have hchecked : x.refusesUpdate dt = false := by
    simp [Axis.refusesUpdate, hm.initialized, hvalid, hdt]
  unfold DriveRefused
  by_cases hmoving : x.motion.updated.data.state = .moving
  · have hsome := isSome_pidStep hready hdt
    rw [hfinite hmoving] at hsome
    obtain ⟨out, hout⟩ := Option.isSome_iff_exists.mp hsome
    obtain ⟨q, hq, hle⟩ := exists_pidStep_output hready hout
    have hok := motorSetOutput_ok_iff hmotor hle
    rw [← hq] at hok
    rw [← Bool.not_eq_true, motionUpdate_of_request hchecked hmoving]
    simp [Axis.updateRequest, hchecked, hmoving, hout, hok]
  · rw [motionUpdate_checked hchecked, if_neg hmoving]
    simp [hmoving]

/-- An update of a running `HOME` fails only where an input or the gate refuses the seek. -/
lemma homingUpdate_eq_false {x : Axis} {inputs : GpioInputs} {now : UInt32} (hm : x.motion.Ready)
    (hvalid : x.motion.data.feedbackValid = true) (hhome : x.motion.data.state = .homing)
    (hmotor : x.io.motor.initialized = true) (hraw : x.io.rawCount.isSome = true) :
    (homingUpdate x inputs now).1 = false ↔ SeekRefused x inputs now := by
  obtain ⟨raw, hraw⟩ := Option.isSome_iff_exists.mp hraw
  obtain ⟨q, hq, hle⟩ := exists_homingPwm
  have hok := motorSetOutput_ok_iff hmotor hle
  rw [← hq] at hok
  have hcontact : (homingContact { x with motion := x.motion.withElapsed now }).1 = true := by
    have hread : (clearControl { x with
        motion := x.motion.withElapsed now }).io.rawCount = some raw := hraw
    simp [homingContact, Peripherals.encoderSetReference, hread]
  unfold homingUpdate SeekRefused
  rw [if_neg (by simp [hm.initialized, hvalid, hhome])]
  dsimp only
  split_ifs with hhazard hlate hnegative
  · rw [Bool.or_eq_true] at hhazard
    simp only [true_iff]
    exact or_assoc.mp (Or.inl hhazard)
  · have hpassed : ¬ now - x.motion.data.homing.startedMs < homingTimeoutMs :=
      UInt32.not_lt.mpr hlate
    simp only [Bool.or_eq_true, not_or] at hhazard
    simp [hhazard, hpassed]
  · rw [Bool.or_eq_true, not_or] at hhazard
    simp [hhazard, hnegative, hcontact]
  · rw [Bool.or_eq_true, not_or] at hhazard
    have hearly : now - x.motion.data.homing.startedMs < homingTimeoutMs :=
      UInt32.not_le.mp hlate
    simp only [homingSeek, beq_eq_false_iff_ne, ne_eq]
    rw [hok]
    simp [hhazard, hearly, hnegative]

/-! ### The failing control section -/

/-- The driver is intact when Motion's state has been shown to the safety manager. -/
lemma World.GateSafe.reevaluate (h : w.GateSafe) : (reevaluate w).GateSafe := by
  have hpublished : w.publish.io.motor.GateInv := h.motor
  exact (gateSafe_evaluate hpublished).runtimeSafetySync

/-- Showing Motion's state to the safety manager keeps a controller ready, and its feedback. -/
lemma ready_reevaluate (h : w.motion.Ready) : (reevaluate w).motion.Ready := by
  refine ready_runtimeSafetySync ?_
  rwa [runtimeSafetyEvaluate_motion]

lemma reevaluate_feedbackValid (w : World) :
    (reevaluate w).motion.data.feedbackValid = w.motion.data.feedbackValid := by
  rw [reevaluate, (runtimeSafetySync_sampling _).1, runtimeSafetyEvaluate_motion]
  rfl

/-- Motion's own reading keeps the driver intact and the environment. -/
lemma World.GateSafe.afterHazardRead (h : w.GateSafe) : (afterHazardRead w).GateSafe := by
  have hread : World.GateSafe { w with io := w.io.afterGpio } :=
    h.congr { SameGate.refl w with } h.motor
  unfold MotionFirmware.afterHazardRead
  dsimp only
  split_ifs
  · exact hread.reevaluate
  · exact hread

lemma afterHazardRead_env (w : World) : (afterHazardRead w).io.env = w.io.env := by
  unfold afterHazardRead
  dsimp only
  split_ifs
  · rw [reevaluate, runtimeSafetySync_env, runtimeSafetyEvaluate_env]
    rfl
  · rfl

/-- **The failing update.**  The control section of a prepared release fails exactly where it is
obstructed. -/
theorem controlSection_eq_false {env : Environment} (henv : env.Reliable) (hio : w.io.env = env)
    (hreg : w.Regular) (hgate : w.GateSafe) (hw : w.Prepared) (hupdates : Updates a w)
    (hfinite : FinitePid a w) : (controlSection w).1 = false ↔ Obstructed a w := by
  obtain ⟨r, rfl, hphase⟩ := hupdates
  have hready := hw.ready (by rw [hphase]; rfl)
  obtain ⟨hsampled, hvalid, hdt⟩ := hw.sampled (by rw [hphase]; rfl)
  have hobstructed : Obstructed (.motion r) w ↔ _ := and_iff_right ⟨r, rfl, hphase⟩
  rw [controlSection_result, hobstructed, attemptUpdate, runtimeSafetySync_task, if_pos hsampled]
  by_cases hseek : w.safety.state = .idle ∧ w.motion.data.state = .homing
  · rw [if_pos hseek, runtimeSafetySync_of_idle hseek.1, runtimeControlUpdate,
      if_neg (not_not.mpr hseek.2), homingControl_eq]
    split_ifs with hstop
    · exact iff_of_false nofun fun h => hstop.2 h.1
    · have hidle := afterHazardRead_idle hseek.1 hstop
      have hmotion := afterHazardRead_motion hidle
      have hraw : (afterHazardRead w).io.rawCount.isSome = true := by
        unfold Peripherals.rawCount
        rw [afterHazardRead_env, hio]
        exact henv.rawCount _
      rw [seekUpdate_result, SeekObstructed, and_iff_right hidle]
      refine homingUpdate_eq_false ?_ ?_ ?_ hgate.afterHazardRead.motor.initialized hraw
      · rwa [hmotion]
      · rwa [hmotion]
      · rw [hmotion]
        exact hseek.2
  · have hne : (runtimeSafetySync w).motion.data.state ≠ .homing := by
      intro hhome
      have hidle := idle_of_runtimeSafetySync_homing hreg hhome
      rw [runtimeSafetySync_of_idle hidle] at hhome
      exact hseek ⟨hidle, hhome⟩
    have hsync : (runtimeSafetySync w).motion.data.feedbackValid = true :=
      (runtimeSafetySync_sampling w).1.trans hvalid
    have hdrive : (driveWorld w).motion.Ready ∧ (driveWorld w).GateSafe ∧
        (driveWorld w).motion.data.feedbackValid = true := by
      unfold driveWorld
      dsimp only
      split_ifs
      · exact ⟨ready_reevaluate (ready_runtimeSafetySync hready),
          hgate.runtimeSafetySync.reevaluate,
          (reevaluate_feedbackValid _).trans hsync⟩
      · exact ⟨ready_runtimeSafetySync hready, hgate.runtimeSafetySync, hsync⟩
    rw [if_neg hseek, runtimeControlUpdate, if_pos hne]
    exact motionUpdate_eq_false hdrive.1 hdrive.2.2 hdt hdrive.2.1.motor.initialized
      (hfinite ⟨r, rfl, hphase⟩)

/-- A failure path calls `safety_internal_fault`. -/
lemma internalFault_of_fails (h : Fails a w) :
    ∃ now, SafetyCall.internalFault now ∈ (step a w).calls := by
  have hraise : ∀ (v : World) now,
      SafetyCall.internalFault now ∈ (runtimeSafetySync (raiseInternal v now)).calls := by
    intro v now
    simp [raiseInternal]
  obtain ⟨⟨r, rfl⟩, ⟨hphase, hsampled⟩ | ⟨hphase, hfailed⟩⟩ := h
  · have hstep : step (.motion r) w = (runtimeSafetySync (sampleFailed w)).goto (.receive 0) := by
      simp only [step, motionStep, hphase, taskReconcile, hsampled, Bool.false_eq_true, if_false]
    rw [hstep, goto_calls]
    unfold sampleFailed
    exact ⟨_, hraise _ _⟩
  · have hstep : (step (.motion r) w).calls = (controlSection w).2.calls := by
      simp only [step, motionStep, hphase]
      rfl
    rw [hstep, controlSection_of_false hfailed]
    unfold updateFailed
    exact ⟨_, hraise _ _⟩

/-! ### Runs without integrity failures -/

/-- What the worlds of a run with reliable readings and clean samples satisfy. -/
structure World.Intact (env : Environment) (w : World) : Prop where
  env : w.io.env = env
  regular : w.Regular
  gate : w.GateSafe
  prepared : w.Prepared

lemma intact_runtimeInit (env : Environment) : (runtimeInit env).Intact env :=
  ⟨rfl, regular_runtimeInit env, gateSafe_runtimeInit env, ⟨nofun, nofun, nofun⟩⟩

/-- Every step with reliable readings and a clean sample keeps a world intact. -/
lemma World.Intact.step {env : Environment} (henv : env.Reliable) (h : w.Intact env)
    (hclean : CleanSample a w) : (step a w).Intact env where
  env := (elapses_step h.regular a).env.trans h.env
  regular := h.regular.step a
  gate := (operations_step h.regular a).invariant (fun _ _ _ _ hop hv => hop.gateSafe hv) h.gate
  prepared := prepared_step henv h.env h.regular hclean h.prepared

/-- In an intact world a step takes a failure path exactly where it is obstructed. -/
lemma fails_iff_obstructed {env : Environment} (henv : env.Reliable) (hw : w.Intact env)
    (hfinite : FinitePid a w) : Fails a w ↔ Obstructed a w := by
  have hsection := fun hupdates => controlSection_eq_false (a := a) henv hw.env hw.regular hw.gate
    hw.prepared hupdates hfinite
  constructor
  · rintro ⟨⟨r, rfl⟩, ⟨hphase, hsampled⟩ | ⟨hphase, hfailed⟩⟩
    · have htaken := (hw.prepared.sampled (by rw [hphase]; rfl)).1
      exact absurd (htaken.symm.trans hsampled) nofun
    · exact (hsection ⟨r, rfl, hphase⟩).mp hfailed
  · intro hobstructed
    have hupdates := hobstructed.1
    obtain ⟨r, rfl, hphase⟩ := hupdates
    exact ⟨⟨r, rfl⟩, Or.inr ⟨hphase, (hsection hobstructed.1).mpr hobstructed⟩⟩

/-- Evaluations of a reliable environment are valid. -/
lemma valid_runtime {env : Environment} (henv : env.Reliable) (as : List Action) :
    ∀ call ∈ (runtime env as).calls, call.integrityFailure = true →
      ∃ now, call = .internalFault now := by
  refine forall_calls_runtime (fun v call hio hmade hfailure => ?_) as
  cases call with
  | evaluate c time =>
    obtain ⟨rfl, -⟩ := hmade
    have hvalid : (evaluation v).valid = true := by
      have hread : (v.io.env.gpio v.io.gpioReads).isSome = true := hio ▸ henv.gpio _
      exact hread
    simp [SafetyCall.integrityFailure, hvalid] at hfailure
  | internalFault now => exact ⟨now, rfl⟩
  | _ => exact absurd hfailure (fun h => by cases h)

/-- A step of an intact world that is not obstructed calls no `safety_internal_fault`. -/
lemma internalFault_mem_step {env : Environment} (henv : env.Reliable) (hw : w.Intact env)
    (hfinite : FinitePid a w) (hclear : ¬ Obstructed a w) {now : UInt32}
    (hmem : SafetyCall.internalFault now ∈ (step a w).calls) :
    SafetyCall.internalFault now ∈ w.calls := by
  obtain ⟨new, hnew, hall⟩ := calls_step hw.regular a
  rw [hnew] at hmem
  refine (List.mem_append.mp hmem).resolve_right fun hlast => ?_
  obtain ⟨k, v, hk, hrecords⟩ := hall _ hlast
  cases k with
  | internalFault => exact hclear ((fails_iff_obstructed henv hw hfinite).mp hk)
  | _ => exact absurd hrecords nofun

/-- **No step is obstructed** exactly when `safety_internal_fault` is never called. -/
theorem internalFault_iff_obstructed {env : Environment} (henv : env.Reliable) {as : List Action}
    (hrun : Machine.Along step (fun a v => CleanSample a v ∧ FinitePid a v) (runtimeInit env) as) :
    (∀ now, SafetyCall.internalFault now ∉ (runtime env as).calls) ↔
      Machine.Along step (fun a v => ¬ Obstructed a v) (runtimeInit env) as := by
  induction as using List.reverseRecOn with
  | nil => simp [runtime, runtimeInit]
  | append_singleton as a ih =>
    obtain ⟨hbefore, hlast, -⟩ := Machine.along_append.mp hrun
    have hintact : (runtime env as).Intact env :=
      Machine.run_invariant (fun a v hv hc => hv.step henv hc.1) (intact_runtimeInit env) hbefore
    have hstep : runtime env (as ++ [a]) = step a (runtime env as) := Machine.run_append
    have hiff := fails_iff_obstructed henv hintact hlast.2
    rw [hstep, Machine.along_append, ← ih hbefore]
    constructor
    · intro hnone
      refine ⟨fun now hmem => ?_, fun hobstructed => ?_, trivial⟩
      · obtain ⟨new, hnew, -⟩ := calls_step hintact.regular a
        exact hnone now (hnew ▸ List.mem_append_left new hmem)
      · obtain ⟨now, hmem⟩ := internalFault_of_fails (hiff.mpr hobstructed)
        exact hnone now hmem
    · rintro ⟨hnone, hclear, -⟩ now hmem
      exact hnone now (internalFault_mem_step henv hintact hlast.2 hclear hmem)

omit [Rounding] in
/-- A call raises the internal fault exactly when it is an integrity failure. -/
lemma raises_internal (call : SafetyCall) : call.raises .internal = call.integrityFailure := by
  cases call <;> rfl

/-- **Integrity failures.**  In a run in which every reading succeeds, every time step lies in
`(0, 1]`, no two consecutive samples differ by half the range and the PID arithmetic stays finite,
`safety_internal_fault` is called exactly if some control update is obstructed; the integrity latch
says so, and without a call the internal fault is never active. -/
theorem internal_reserved (env : Environment) (henv : env.Reliable) (as : List Action)
    (hrun : Machine.Along step (fun a v => CleanSample a v ∧ FinitePid a v) (runtimeInit env) as) :
    ((∀ now, SafetyCall.internalFault now ∉ (runtime env as).calls) ↔
      Machine.Along step (fun a v => ¬ Obstructed a v) (runtimeInit env) as) ∧
    ((runtime env as).safety.internalActive = false ↔
      Machine.Along step (fun a v => ¬ Obstructed a v) (runtimeInit env) as) ∧
    (Machine.Along step (fun a v => ¬ Obstructed a v) (runtimeInit env) as →
      (runtime env as).safety.faults.active.code ≠ .internal) := by
  have hcalls := internalFault_iff_obstructed henv hrun
  have hcore := (recorded_runtime env as).core
  have hnone : (runtime env as).calls.any SafetyCall.integrityFailure = false ↔
      ∀ now, SafetyCall.internalFault now ∉ (runtime env as).calls := by
    rw [List.any_eq_false]
    constructor
    · intro h now hmem
      exact h _ hmem rfl
    · intro h call hmem hfailure
      obtain ⟨now, rfl⟩ := valid_runtime henv as call hmem hfailure
      exact h now hmem
  refine ⟨hcalls, ?_, fun hclear hcode => ?_⟩
  · have hlatch := internalActive_history (safetyInit env.start) (runtime env as).calls
    rw [← hcore] at hlatch
    have hactive : (runtime env as).safety.internalActive =
        (runtime env as).calls.any SafetyCall.integrityFailure := hlatch
    rw [hactive, hnone, hcalls]
  · have hactive : ((safetyInit env.start).replay (runtime env as).calls).faults.active.code =
        .internal := by
      rw [← hcore]
      exact hcode
    rcases active_history _ _ (by rw [hactive]; exact nofun) with hstart | ⟨call, hmem, hraises⟩
    · rw [hactive] at hstart
      exact absurd hstart nofun
    · rw [hactive, raises_internal] at hraises
      obtain ⟨now, rfl⟩ := valid_runtime henv as call hmem hraises
      exact hcalls.mpr hclear now hmem

/-- The contact bounces: the fourth reading of the inputs shows it, the readings around it do
not. -/
def contactBounce : Environment where
  gpio n := some { negativeLimit := n == 3 }
  rawCount _ := some 1000
  clock n := if n < 8 then n else if n < 11 then 20 else 30

/-- A `HOME`, an evaluation while it seeks, and one more release. -/
def seekThroughBounce : List Action :=
  startUp ++ release [⟨.home, 0⟩] ++ [.safety] ++ release []

omit [Rounding] in
lemma reliable_standstill : standstill.Reliable := ⟨fun _ => rfl, fun _ => rfl⟩

omit [Rounding] in
/-- A `MOVE` that nothing disturbs leaves the integrity latch clear. -/
theorem internal_reserved_move :
    (runtime32 standstill (startUp ++ release [⟨.moveAbs, 2000⟩])).safety.internalActive = false :=
  (@internal_reserved Binary32.rounding standstill reliable_standstill
    (startUp ++ release [⟨.moveAbs, 2000⟩]) (by decide +kernel)).2.1.mpr (by decide +kernel)

omit [Rounding] in
/-- Safety sees the contact of a seek between two readings of Motion that do not: the gate is
closed, the next update of the seek is refused, and the refusal becomes an internal fault. -/
theorem internal_reserved_bounce :
    contactBounce.Reliable ∧
      Machine.Along (@step Binary32.rounding)
        (fun a v => CleanSample a v ∧ @FinitePid Binary32.rounding a v)
        (runtimeInit contactBounce) seekThroughBounce ∧
      (runtime32 contactBounce seekThroughBounce).safety.faults.active.code = .internal ∧
      (runtime32 contactBounce seekThroughBounce).safety.internalActive = true :=
  ⟨⟨fun _ => rfl, fun _ => rfl⟩, by decide +kernel, by decide +kernel⟩

end MotionFirmware
