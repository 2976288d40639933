import MotionFirmware.Rtos.Phases

/-!
# The reference

The encoder reference offset is set by the control update that completes a `HOME`, and by nothing
else; every other end of an attempt leaves the offset and the count of completed homings as they
were.  The estimator differentiates logical counts, which move with the offset, but its history is
dropped whenever the offset moves: each velocity that it reports is a displacement of the raw
counter between two samples.
-/

namespace MotionFirmware

variable [Rounding] {k : OperationKind} {w w' : World} {a : Action}

/-! ### Controllers before `motion_init` -/

/-- Before `motion_init` the controller is all zero. -/
def World.Fresh (w : World) : Prop := w.task.phase.early = true → w.motion = {}

/-- Every step keeps a controller fresh until `motion_init`. -/
lemma fresh_step (hw : w.Fresh) : (step a w).Fresh := by
  intro hearly
  by_cases hmotion : ∀ r, a ≠ .motion r
  · obtain ⟨htask, heq⟩ := step_other (w := w) hmotion
    rw [heq]
    exact hw (htask ▸ hearly)
  · push Not at hmotion
    obtain ⟨r, rfl⟩ := hmotion
    have hbefore : w.task.phase.early = true := by
      by_contra hlate
      have := (follows_motionStep w r).early (by simpa using hlate)
      exact absurd (hearly.symm.trans this) (by decide)
    have hzero := hw hbefore
    simp only [step] at hearly ⊢
    unfold motionStep at hearly ⊢
    split at hearly
    next hp => exact hzero
    next hp =>
      unfold taskConfigure at hearly ⊢
      split at hearly
      · exact hzero
      · exact absurd hearly (fun h => by cases h)
    all_goals next hp => simp [hp, Phase.early] at hbefore

/-- Every reachable controller is fresh until `motion_init`. -/
lemma fresh_runtime (env : Environment) (as : List Action) : (runtime env as).Fresh :=
  Machine.run_invariant_of_forall (fun _ _ hv => fresh_step hv) fun _ => rfl

/-! ### What an operation does to the record -/

/-- The offset is the same, and the homing record is of the same attempt. -/
structure SameAttempt (w w' : World) : Prop where
  referenceOffset : w'.io.referenceOffset = w.io.referenceOffset
  homing : w.motion.data.homing.SameAttempt w'.motion.data.homing

omit [Rounding] in
/-- The attempt is the same where the homing record and the offset are. -/
lemma sameAttempt_of_homing (hoffset : w'.io.referenceOffset = w.io.referenceOffset)
    (hhoming : w'.motion.data.homing = w.motion.data.homing) : SameAttempt w w' :=
  ⟨hoffset, hhoming ▸ HomingSnapshot.SameAttempt.refl _⟩

omit [Rounding] in
/-- Closing the record after the elapsed time was taken keeps the attempt. -/
lemma sameAttempt_abort (m : MotionController) (now : UInt32) (r : HomingResult) :
    m.data.homing.SameAttempt ((m.withElapsed now).data.homing.abort r) := by
  have helapsed : m.data.homing.SameAttempt (m.withElapsed now).data.homing := ⟨rfl, rfl, rfl⟩
  exact helapsed.trans (HomingSnapshot.sameAttempt_abort _ r)

omit [Rounding] in
/-- Adopting a latch keeps the attempt. -/
lemma sameAttempt_runtimeSafetySync (w : World) : SameAttempt w (runtimeSafetySync w) := by
  by_cases hidle : w.safety.state = .idle
  · rw [runtimeSafetySync_of_idle hidle]
    exact sameAttempt_of_homing rfl rfl
  · refine ⟨by simp, ?_⟩
    rw [runtimeSafetySync_homing hidle]
    split_ifs
    · exact sameAttempt_abort w.motion _ _
    · exact HomingSnapshot.SameAttempt.refl _

/-- **Step lemma.**  An operation that neither starts nor completes a `HOME` keeps the attempt;
`motion_init` finds nothing to keep. -/
theorem Operation.sameAttempt (h : Operation k w w') (hhome : ∀ now, k ≠ .home now)
    (hcomplete : k ≠ .complete) (hfresh : k = .configure → w.motion = {}) : SameAttempt w w' := by
  cases h with
  | bookkeeping h => exact sameAttempt_of_homing h.referenceOffset (by rw [h.motion])
  | configure h =>
    obtain ⟨-, pid, -, rfl⟩ := motionInit_some h
    exact sameAttempt_of_homing rfl (by rw [hfresh rfl])
  | sample _ dt =>
    rcases motionSample_cases w.toAxis dt with ⟨y, hframe, -, heq⟩ | ⟨count, -, -, heq⟩
    · rw [heq]
      exact sameAttempt_of_homing hframe.fail.referenceOffset hframe.fail.homing
    · rw [heq]
      exact sameAttempt_of_homing rfl rfl
  | evaluate => exact sameAttempt_of_homing (by simp) (by simp)
  | sync => exact sameAttempt_runtimeSafetySync w
  | estop => exact sameAttempt_of_homing (by simp [raiseEstop, World.afterTime]) (by simp)
  | internalFault =>
    exact sameAttempt_of_homing (by simp [raiseInternal, World.callSafety]) (by simp)
  | reset => exact sameAttempt_of_homing rfl rfl
  | stopHoming => exact ⟨rfl, sameAttempt_abort w.motion _ _⟩
  | @home _ now => exact absurd rfl (hhome now)
  | halt => exact sameAttempt_of_homing rfl (halt_keeps w.motion).homing
  | @drive _ dt =>
    have hupdated := (updated_keeps w.motion).homing
    rcases motionUpdate_cases w.toAxis dt with ⟨y, hframe, -, heq⟩ | ⟨-, heq⟩ |
      ⟨out, pid, -, -, heq⟩
    · rw [heq]
      exact sameAttempt_of_homing hframe.fail.referenceOffset hframe.fail.homing
    · rw [heq]
      exact sameAttempt_of_homing rfl hupdated
    · rw [heq]
      exact sameAttempt_of_homing rfl hupdated
  | seek _ hsame =>
    exact ⟨hsame.referenceOffset, hsame.startedMs, hsame.completed, hsame.referenced⟩
  | @expire _ now =>
    have hsync := sameAttempt_runtimeSafetySync (raiseTimeout (w.onAxis fun x =>
      homingAbort { x with motion := x.motion.withElapsed now } .timeout) now)
    refine ⟨hsync.referenceOffset.trans ?_, HomingSnapshot.SameAttempt.trans ?_ hsync.homing⟩
    · simp [raiseTimeout, World.callSafety, World.onAxis, homingAbort, clearControl]
    · rw [raiseTimeout_motion]
      exact sameAttempt_abort w.motion now .timeout
  | complete => exact absurd rfl hcomplete
  | abort => exact ⟨rfl, HomingSnapshot.sameAttempt_abort _ _⟩
  | _ => exact sameAttempt_of_homing rfl rfl

/-- `w'` has the reference of `w`, or has lost it: the offset and the count of completed homings
are the same. -/
structure KeepsReference (w w' : World) : Prop where
  referenceOffset : w'.io.referenceOffset = w.io.referenceOffset
  completed : w'.motion.data.homing.completed = w.motion.data.homing.completed
  referenced : w'.motion.data.homing.referenced = w.motion.data.homing.referenced ∨
    w'.motion.data.homing.referenced = false

omit [Rounding] in
lemma KeepsReference.refl (w : World) : KeepsReference w w := ⟨rfl, rfl, Or.inl rfl⟩

omit [Rounding] in
lemma KeepsReference.trans {w'' : World} (h : KeepsReference w w') (h' : KeepsReference w' w'') :
    KeepsReference w w'' := by
  refine ⟨h'.referenceOffset.trans h.referenceOffset, h'.completed.trans h.completed, ?_⟩
  rcases h'.referenced with heq | hlost
  · exact h.referenced.imp heq.trans heq.trans
  · exact Or.inr hlost

/-- Apart from a completed `HOME` every operation keeps the reference, or loses it with the start of
a new attempt. -/
theorem Operation.keepsReference (h : Operation k w w') (hk : k ≠ .complete)
    (hfresh : k = .configure → w.motion = {}) : KeepsReference w w' := by
  by_cases hhome : ∀ now, k ≠ .home now
  · have hsame := h.sameAttempt hhome hk hfresh
    exact ⟨hsame.referenceOffset, hsame.homing.completed, Or.inl hsame.homing.referenced⟩
  · push Not at hhome
    obtain ⟨now, rfl⟩ := hhome
    cases h with
    | home hidle h =>
      obtain ⟨-, -, -, heq⟩ := homingBegin_accepted h
      rw [heq]
      exact ⟨rfl, rfl, Or.inr rfl⟩

/-- `motion_init` is performed on a fresh controller only. -/
lemma fresh_of_performs {v : World} (hfresh : w.Fresh) (h : Performs a w k v)
    (hk : k = .configure) : v.motion = {} := by
  subst hk
  obtain ⟨⟨r, -, hphase⟩, rfl⟩ := h
  exact hfresh (by rw [hphase]; rfl)

/-- A step that does not complete a `HOME` keeps the reference. -/
theorem keepsReference_step (hreg : w.Regular) (hfresh : w.Fresh) (h : ¬ CompletesHome a w) :
    KeepsReference w (step a w) := by
  refine (operations_step hreg a).invariant (fun k v v' hk hop hv => ?_) (KeepsReference.refl w)
  refine hv.trans (hop.keepsReference ?_ (fresh_of_performs hfresh hk))
  rintro rfl
  exact h hk

/-! ### Running attempts are not referenced -/

/-- A controller in `HOMING` has no reference. -/
def World.Unreferenced (w : World) : Prop :=
  w.motion.data.state = .homing → w.motion.data.homing.referenced = false

/-- Every operation keeps a seeking controller without a reference. -/
lemma Operation.unreferenced (h : Operation k w w') (hfresh : k = .configure → w.motion = {})
    (hs : w.safety.Settled) (hw : w.Unreferenced) : w'.Unreferenced := by
  intro hhome
  by_cases hcomplete : k = .complete
  · subst hcomplete
    cases h
    simp [completeHoming, grantContact, MotionController.reference] at hhome
  · have hkeeps := h.keepsReference hcomplete hfresh
    rcases h.state hs with heq | ⟨⟨now, rfl⟩, -⟩ | ⟨-, h⟩ | h | h | h | h
    · exact hkeeps.referenced.elim (fun h => h.trans (hw (heq ▸ hhome))) id
    · cases h with
      | home hidle h =>
        obtain ⟨-, -, -, heq⟩ := homingBegin_accepted h
        rw [heq]
        rfl
    all_goals simp [hhome] at h

/-- Every step keeps a seeking controller without a reference. -/
lemma unreferenced_step (hreg : w.Regular) (hfresh : w.Fresh) (hw : w.Unreferenced) :
    (step a w).Unreferenced := by
  have hboth : (step a w).Unreferenced ∧ (step a w).safety.Settled :=
    (operations_step hreg a).invariant (I := fun v => v.Unreferenced ∧ v.safety.Settled)
      (fun k v v' hk hop hv =>
        ⟨hop.unreferenced (fresh_of_performs hfresh hk) hv.2 hv.1, hop.settled hv.2⟩)
      ⟨hw, hreg.settled⟩
  exact hboth.1

/-- In every reachable world a seeking controller has no reference. -/
lemma unreferenced_runtime (env : Environment) (as : List Action) :
    (runtime env as).Unreferenced := by
  have hstep : ∀ a v, v.Regular ∧ v.Fresh ∧ v.Unreferenced →
      (step a v).Regular ∧ (step a v).Fresh ∧ (step a v).Unreferenced := by
    intro a v hv
    exact ⟨hv.1.step a, fresh_step hv.2.1, unreferenced_step hv.1 hv.2.1 hv.2.2⟩
  have hinit : (runtimeInit env).Unreferenced := fun _ => rfl
  exact (Machine.run_invariant_of_forall hstep
    ⟨regular_runtimeInit env, fun _ => rfl, hinit⟩).2.2

/-- A step that does not complete the attempt leaves it without a reference, however it ends. -/
lemma referenced_of_not_completesHome (hreg : w.Regular) (hfresh : w.Fresh)
    (hw : w.Unreferenced) (hhome : w.motion.data.state = .homing) (h : ¬ CompletesHome a w) :
    (step a w).motion.data.homing.referenced = false :=
  (keepsReference_step hreg hfresh h).referenced.elim (fun heq => heq.trans (hw hhome)) id

/-! ### The step that completes a `HOME` -/

/-- The control update that completes an attempt. -/
lemma seekUpdate_of_completes {inputs : GpioInputs} {now : UInt32}
    (hhome : w.motion.data.state = .homing) (h : Completes w inputs now) :
    ∃ io, w.io.motorDisable.encoderSetReference 0 = (true, io) ∧
      seekUpdate w inputs now = (true, runtimeSafetyEvaluate (completeHoming w now io)) := by
  obtain ⟨hneg, hestop, hpos, htime, hinit, hvalid, hset⟩ := h
  refine ⟨_, Prod.ext hset rfl, ?_⟩
  have hupdate : homingUpdate w.toAxis inputs now = (true,
      { io := (w.io.motorDisable.encoderSetReference 0).2
        motion := (clearControl { w.toAxis with
          motion := w.motion.withElapsed now }).motion.reference }) := by
    have hlate : ¬ homingTimeoutMs ≤ (w.motion.withElapsed now).data.homing.elapsedMs :=
      UInt32.not_le.mpr htime
    have hset' : ((clearControl { w.toAxis with
        motion := w.motion.withElapsed now }).io.encoderSetReference 0).1 = true := hset
    unfold homingUpdate homingContact
    simp only [hinit, hvalid, hhome, hestop, hpos, hneg, hlate, hset']
    simp [clearControl]
  unfold seekUpdate
  dsimp only
  rw [hupdate]
  rfl

/-- The world that the publication finds when a step completes a `HOME`. -/
lemma step_of_completesHome (h : CompletesHome a w) :
    ∃ io, (afterHazardRead w).io.motorDisable.encoderSetReference 0 = (true, io) ∧
      step a w = publishRelease (runtimeSafetyEvaluate
        (completeHoming (afterHazardRead w) w.task.nowMs io)) true := by
  obtain ⟨⟨r, rfl, hphase⟩, hsampled, hidle, hhome, hafter, inputs, hread, hcomp⟩ := h
  have hmotion := afterHazardRead_motion hafter
  obtain ⟨io, hset, hseek⟩ := seekUpdate_of_completes (by rwa [hmotion]) hcomp
  refine ⟨io, hset, ?_⟩
  have hupdate : runtimeControlUpdate w w.task.dt w.task.nowMs = (true, runtimeSafetyEvaluate
      (completeHoming (afterHazardRead w) w.task.nowMs io)) := by
    unfold runtimeControlUpdate
    rw [if_neg (not_not.mpr hhome), homingControl_eq, if_neg fun hne => hne.2 hafter, hread]
    exact hseek
  have hsection : controlSection w = (true, runtimeSafetyEvaluate
      (completeHoming (afterHazardRead w) w.task.nowMs io)) := by
    unfold controlSection attemptUpdate
    rw [runtimeSafetySync_of_idle hidle]
    simp only [hsampled, if_true, hupdate]
  change motionStep w r = _
  unfold motionStep taskUpdate
  rw [hphase]
  simp only [hsection]

omit [Rounding] in
/-- The contact sets the logical count at the raw counter it has read to zero. -/
lemma signedBits_reference {p io : Peripherals} (h : p.encoderSetReference 0 = (true, io)) :
    ∃ raw, p.rawCount = some raw ∧ signedBits (raw + io.referenceOffset) = 0 := by
  obtain ⟨raw, hraw, heq⟩ := Peripherals.encoderSetReference_of_true (by rw [h])
  refine ⟨raw, hraw, ?_⟩
  have hoffset : io.referenceOffset = (0 : Int32).toUInt32 - raw := by
    rw [h] at heq
    exact congrArg Peripherals.referenceOffset heq
  have hzero : raw + ((0 : Int32).toUInt32 - raw) = 0 := by
    have : (0 : Int32).toUInt32 = 0 := rfl
    grind
  rw [hoffset, hzero]
  rfl

/-- **The reference.**  A completed `HOME` leaves the controller at rest at position and target
zero, with the reference and one more completion; the new offset reads the raw counter at the
contact as zero. -/
theorem reference_of_completesHome (h : CompletesHome a w) :
    (step a w).motion.data.state = .idle ∧ (step a w).motion.data.position = 0 ∧
      (step a w).motion.data.target = 0 ∧ (step a w).motion.data.pwm = 0 ∧
      (step a w).io.motor.output = 0 ∧ (step a w).motion.data.homing.referenced = true ∧
      (step a w).motion.data.homing.completed = w.motion.data.homing.completed + 1 ∧
      ∃ raw, (afterHazardRead w).io.rawCount = some raw ∧
        signedBits (raw + (step a w).io.referenceOffset) = 0 := by
  obtain ⟨io, hset, heq⟩ := step_of_completesHome h
  have hafter := h.2.2.2.2.1
  have hmotion : (step a w).motion =
      (completeHoming (afterHazardRead w) w.task.nowMs io).motion := by
    rw [heq]
    exact runtimeSafetyEvaluate_motion _
  have hbefore := afterHazardRead_motion hafter
  have hoffset : (step a w).io.referenceOffset = io.referenceOffset := by
    rw [heq]
    exact runtimeSafetyEvaluate_referenceOffset _
  rw [hmotion, hoffset]
  obtain ⟨raw, hraw, hzero⟩ := signedBits_reference hset
  refine ⟨rfl, rfl, rfl, rfl, ?_, rfl, ?_, raw, hraw, hzero⟩
  · have hmotor : io.motor.output = 0 := by
      have := Peripherals.encoderSetReference_motor (afterHazardRead w).io.motorDisable 0
      rw [hset] at this
      exact congrArg Motor.output this
    have hstep : (step a w).io.motor = enforcedMotor (applyEvaluation
        (completeHoming (afterHazardRead w) w.task.nowMs io)) := by
      rw [heq]
      exact runtimeSafetyEvaluate_motor _
    rw [hstep]
    rcases enforcedMotor_output (applyEvaluation
      (completeHoming (afterHazardRead w) w.task.nowMs io)) with h | h
    · exact h.trans hmotor
    · exact h
  · rw [← hbefore]
    rfl

/-! ### The velocity estimate -/

/-- The estimator of `y` is that of `x`, or it has been dropped: without its history, or at zero. -/
structure Axis.KeepsEstimate (x y : Axis) : Prop where
  history : y.motion.sampled = true → x.motion.sampled = true ∧
    y.motion.previousCount = x.motion.previousCount ∧ y.io.referenceOffset = x.io.referenceOffset
  velocity : y.motion.data.velocity = x.motion.data.velocity ∨ y.motion.data.velocity = 0

section Estimate

variable {x y : Axis}

omit [Rounding] in
lemma Axis.KeepsEstimate.refl (x : Axis) : x.KeepsEstimate x := ⟨fun h => ⟨h, rfl, rfl⟩, Or.inl rfl⟩

omit [Rounding] in
lemma Axis.KeepsEstimate.trans {z : Axis} (h : x.KeepsEstimate y) (h' : y.KeepsEstimate z) :
    x.KeepsEstimate z := by
  refine ⟨fun hz => ?_, ?_⟩
  · obtain ⟨hy, hcount, hoffset⟩ := h'.history hz
    obtain ⟨hx, hcount', hoffset'⟩ := h.history hy
    exact ⟨hx, hcount.trans hcount', hoffset.trans hoffset'⟩
  · rcases h'.velocity with heq | hzero
    · exact h.velocity.imp heq.trans heq.trans
    · exact Or.inr hzero

omit [Rounding] in
/-- A failing operation keeps or drops the estimator. -/
lemma Axis.KeepsEstimate.fail (h : x.KeepsEstimate y) : x.KeepsEstimate (fail y) := by
  refine h.trans ?_
  unfold MotionFirmware.fail
  split_ifs
  · exact ⟨nofun, Or.inl rfl⟩
  · exact { Axis.KeepsEstimate.refl y with }

/-- An update leaves the estimator alone, or fails and drops its history. -/
lemma keepsEstimate_motionUpdate (x : Axis) (dt : FloatValue) :
    x.KeepsEstimate (motionUpdate x dt).2 := by
  have hkeeps := updated_keeps x.motion
  have hupdated : x.KeepsEstimate { x with motion := x.motion.updated } :=
    ⟨fun h => ⟨hkeeps.sampled ▸ h, hkeeps.previousCount, rfl⟩, Or.inl hkeeps.velocity⟩
  unfold motionUpdate motionDrive
  split_ifs
  · exact (Axis.KeepsEstimate.refl x).fail
  · dsimp only
    split
    · split
      · exact hupdated.fail
      · split_ifs
        · exact { hupdated with }
        · exact Axis.KeepsEstimate.fail { hupdated with }
    · exact { hupdated with }

/-- A sample that is refused keeps or drops the estimator. -/
lemma keepsEstimate_motionSample {dt : FloatValue} (h : (motionSample x dt).1 = false) :
    x.KeepsEstimate (motionSample x dt).2 := by
  have hread : x.KeepsEstimate { x with io := x.io.afterEncoder } :=
    { Axis.KeepsEstimate.refl x with }
  unfold motionSample at h ⊢
  split_ifs at h ⊢
  · exact (Axis.KeepsEstimate.refl x).fail
  · split at h
    · exact hread.fail
    · split_ifs at h ⊢
      exact hread.fail

end Estimate

/-- Apart from a sample every operation keeps or drops the estimator. -/
theorem Operation.keepsEstimate (h : Operation k w w') (hk : k ≠ .sample) :
    w.toAxis.KeepsEstimate w'.toAxis := by
  cases h with
  | bookkeeping h =>
    exact ⟨fun hs => ⟨h.motion ▸ hs, by rw [h.motion], h.referenceOffset⟩,
      Or.inl (by rw [h.motion])⟩
  | configure h =>
    obtain ⟨-, pid, -, rfl⟩ := motionInit_some h
    exact ⟨(by simp), Or.inr rfl⟩
  | sample => exact absurd rfl hk
  | evaluate => exact ⟨fun hs => ⟨by simpa using hs, by simp, by simp⟩, Or.inl (by simp)⟩
  | sync => exact ⟨fun hs => ⟨by simpa using hs, by simp, by simp⟩, Or.inl (by simp)⟩
  | estop =>
    exact ⟨fun hs => ⟨by simpa using hs, by simp, by simp [raiseEstop, World.afterTime]⟩,
      Or.inl (by simp)⟩
  | internalFault =>
    exact ⟨fun hs => ⟨by simpa using hs, by simp, by simp [raiseInternal, World.callSafety]⟩,
      Or.inl (by simp)⟩
  | home hidle h =>
    obtain ⟨-, -, -, heq⟩ := homingBegin_accepted h
    rw [heq]
    exact { Axis.KeepsEstimate.refl w.toAxis with }
  | halt =>
    have hkeeps := halt_keeps w.motion
    exact ⟨fun hs => ⟨hkeeps.sampled ▸ hs, hkeeps.previousCount, rfl⟩, Or.inl hkeeps.velocity⟩
  | drive => exact keepsEstimate_motionUpdate _ _
  | seek _ hsame =>
    exact ⟨fun hs => ⟨hsame.sampled ▸ hs, hsame.previousCount, hsame.referenceOffset⟩,
      Or.inl hsame.velocity⟩
  | @expire _ now =>
    refine ⟨fun hs => ?_, Or.inl ?_⟩
    · simp only [expireHoming, runtimeSafetySync_sampling, raiseTimeout_motion] at hs ⊢
      exact ⟨hs, rfl, by simp [raiseTimeout, World.callSafety, World.onAxis, homingAbort,
        clearControl]⟩
    · simp only [expireHoming, runtimeSafetySync_sampling, raiseTimeout_motion]
      rfl
  | complete => exact ⟨(fun h => by cases h), Or.inr rfl⟩
  | _ => exact ⟨fun hs => ⟨hs, rfl, rfl⟩, Or.inl rfl⟩

/-- The history of the estimator survives every operation but `motion_init`, a sample, a failed
update and a completed `HOME`. -/
lemma Operation.sampled_eq (h : Operation k w w')
    (hk : k ≠ .configure ∧ k ≠ .sample ∧ k ≠ .drive false ∧ k ≠ .complete) :
    w'.motion.sampled = w.motion.sampled := by
  cases h with
  | bookkeeping h => rw [h.motion]
  | configure => exact absurd rfl hk.1
  | sample => exact absurd rfl hk.2.1
  | home hidle h =>
    obtain ⟨-, -, -, heq⟩ := homingBegin_accepted h
    rw [heq]
    rfl
  | halt => exact (halt_keeps w.motion).sampled
  | @drive _ dt =>
    have hsampled := (updated_keeps w.motion).sampled
    rcases motionUpdate_cases w.toAxis dt with ⟨y, -, -, heq⟩ | ⟨-, heq⟩ | ⟨out, pid, -, -, heq⟩
    · exact absurd (by rw [heq]) hk.2.2.1
    · rw [heq]
      exact hsampled
    · rw [heq]
      exact hsampled
  | seek _ hsame => exact hsame.sampled
  | @expire _ now =>
    simp only [expireHoming, runtimeSafetySync_sampling, raiseTimeout_motion]
    rfl
  | complete => exact absurd rfl hk.2.2.2
  | _ => simp [World.disable, foreignRequest, World.publish, World.callSafety, acceptReset,
      MotionController.adopt, commandStopHoming, abortHoming, World.afterTime, World.onAxis,
      World.countAbort, World.setSafety, homingAbort, clearControl, MotionController.withElapsed,
      MotionController.start, MotionController.dropDemand]

/-- A step that does not sample keeps or drops the estimator. -/
lemma keepsEstimate_step (hreg : w.Regular) (h : ¬ Samples a w) :
    w.toAxis.KeepsEstimate (step a w).toAxis := by
  refine (operations_step hreg a).invariant (I := fun v => w.toAxis.KeepsEstimate v.toAxis)
    (fun k v v' hk hop hv => hv.trans (hop.keepsEstimate ?_)) (Axis.KeepsEstimate.refl w.toAxis)
  rintro rfl
  exact h hk

/-- The step takes a sample that is accepted. -/
def AcceptsSample (a : Action) (w : World) : Prop :=
  Samples a w ∧ (motionSample w.toAxis w.task.dt).1 = true

/-- The estimator loses its history by a refused sample, a failure or a completed `HOME` only. -/
theorem sampled_step (hreg : w.Regular) (hfresh : w.Fresh) (hsampled : w.motion.sampled = true)
    (hlost : (step a w).motion.sampled = false) :
    (Samples a w ∧ ¬ AcceptsSample a w) ∨ Fails a w ∨ CompletesHome a w := by
  by_contra hnot
  obtain ⟨hsample, hfails, hcomplete⟩ : ¬ (Samples a w ∧ ¬ AcceptsSample a w) ∧ ¬ Fails a w ∧
      ¬ CompletesHome a w := by tauto
  by_cases h : Samples a w
  · obtain ⟨-, haccept⟩ : AcceptsSample a w := by tauto
    obtain ⟨r, rfl, hphase⟩ := h
    have hstep : (step (.motion r) w).toAxis = (motionSample w.toAxis w.task.dt).2 := by
      simp only [step, motionStep, hphase, taskSample]
    rcases motionSample_cases w.toAxis w.task.dt with ⟨y, -, -, heq⟩ | ⟨count, -, -, heq⟩
    · simp [heq] at haccept
    · rw [hstep, heq] at hlost
      exact absurd hlost (fun h => by cases h)
  · have heq : (step a w).motion.sampled = w.motion.sampled := by
      refine (operations_step hreg a).invariant (I := fun v => v.motion.sampled = w.motion.sampled)
        (fun k v v' hk hop hv => (hop.sampled_eq ⟨?_, ?_, ?_, ?_⟩).trans hv) rfl
      all_goals rintro rfl
      · rw [fresh_of_performs hfresh hk rfl] at hv
        rw [← hv] at hsampled
        exact absurd hsampled (by decide)
      · exact h hk
      · exact hfails (hk rfl)
      · exact hcomplete hk
    rw [heq, hsampled] at hlost
    exact absurd hlost (by decide)

/-- The raw counter that the latest accepted sample has read, as an observer of a run. -/
def observeSample (a : Action) (w : World) (last : Option UInt32) : Option UInt32 :=
  match a, w.task.phase with
  | .motion _, .sample => if (motionSample w.toAxis w.task.dt).1 then w.io.rawCount else last
  | _, _ => last

/-- The raw counter that the latest accepted sample of a run has read. -/
def lastSample (env : Environment) (as : List Action) : Option UInt32 :=
  Machine.watch step observeSample (runtimeInit env) none as

/-- The estimator's last count is the logical count of the raw counter that it has read last. -/
def World.Traces (w : World) (last : Option UInt32) : Prop :=
  w.motion.sampled = true →
    ∃ raw, last = some raw ∧ w.motion.previousCount = signedBits (raw + w.io.referenceOffset)

/-- The step reports the displacement of the raw counter since the previous accepted sample, over
the time step. -/
def ReportsDisplacement (a : Action) (w : World) (last : Option UInt32) : Prop :=
  Samples a w ∧ ∃ raw previous, w.io.rawCount = some raw ∧ last = some previous ∧
    (step a w).motion.data.velocity = .ofInt (signedBits (raw - previous)).toInt / w.task.dt

/-- An accepted sample reports the displacement of the raw counter, or zero when the estimator has
no history. -/
lemma velocity_of_acceptsSample (h : AcceptsSample a w) {last : Option UInt32}
    (hw : w.Traces last) :
    (w.motion.sampled = true → ReportsDisplacement a w last) ∧
      (w.motion.sampled = false → (step a w).motion.data.velocity = 0) := by
  have hsamples := h.1
  obtain ⟨⟨r, rfl, hphase⟩, haccept⟩ := h
  have hstep : (step (.motion r) w).toAxis = (motionSample w.toAxis w.task.dt).2 := by
    simp only [step, motionStep, hphase, taskSample]
  unfold ReportsDisplacement
  rw [hstep]
  rcases motionSample_cases w.toAxis w.task.dt with ⟨y, -, -, heq⟩ | ⟨count, hcount, -, heq⟩
  · simp [heq] at haccept
  · obtain ⟨raw, hraw, rfl⟩ := Option.map_eq_some_iff.mp hcount
    rw [heq]
    refine ⟨fun hsampled => ?_, fun hsampled => if_neg (by simp [hsampled])⟩
    obtain ⟨previous, hlast, htrace⟩ := hw hsampled
    refine ⟨hsamples, raw, previous, hraw, hlast, ?_⟩
    rw [← deltaBits_signedBits htrace]
    exact if_pos hsampled

/-- A sample keeps the trace of the estimator; a refused one reports no new velocity. -/
lemma traces_sample (h : Samples a w) {last : Option UInt32} (hw : w.Traces last) :
    (step a w).Traces (observeSample a w last) ∧
      ((step a w).motion.data.velocity = w.motion.data.velocity ∨
        (step a w).motion.data.velocity = 0 ∨ AcceptsSample a w) := by
  have hsamples := h
  obtain ⟨r, rfl, hphase⟩ := h
  have hstep : (step (.motion r) w).toAxis = (motionSample w.toAxis w.task.dt).2 := by
    simp only [step, motionStep, hphase, taskSample]
  have hobserve : observeSample (.motion r) w last =
      if (motionSample w.toAxis w.task.dt).1 then w.io.rawCount else last := by
    simp only [observeSample, hphase]
  unfold World.Traces
  rw [hobserve, hstep]
  rcases motionSample_cases w.toAxis w.task.dt with ⟨y, -, -, heq⟩ | ⟨count, hcount, -, heq⟩
  · have hkeeps : w.toAxis.KeepsEstimate (motionSample w.toAxis w.task.dt).2 :=
      keepsEstimate_motionSample (by rw [heq])
    rw [heq] at hkeeps ⊢
    refine ⟨fun hsampled => ?_, hkeeps.velocity.imp id Or.inl⟩
    obtain ⟨hbefore, hprevious, hoffset⟩ := hkeeps.history hsampled
    obtain ⟨raw, hraw, htrace⟩ := hw hbefore
    exact ⟨raw, by simpa using hraw, by rw [hprevious, hoffset, htrace]⟩
  · obtain ⟨raw, hraw, rfl⟩ := Option.map_eq_some_iff.mp hcount
    refine ⟨fun _ => ⟨raw, by simpa [heq] using hraw, by rw [heq]; rfl⟩, Or.inr (Or.inr ?_)⟩
    exact ⟨hsamples, by rw [heq]⟩

/-- **Step lemma.**  Every step keeps the trace of the estimator, and only an accepted sample
reports a velocity that is neither the one before it nor zero. -/
theorem traces_step (hreg : w.Regular) {last : Option UInt32} (hw : w.Traces last) :
    (step a w).Traces (observeSample a w last) ∧
      ((step a w).motion.data.velocity = w.motion.data.velocity ∨
        (step a w).motion.data.velocity = 0 ∨ AcceptsSample a w) := by
  by_cases h : Samples a w
  · exact traces_sample h hw
  · have hkeeps := keepsEstimate_step hreg h
    have hobserve : observeSample a w last = last := by
      unfold observeSample
      split
      next received hphase => exact absurd ⟨received, rfl, hphase⟩ h
      · rfl
    refine ⟨fun hsampled => ?_, hkeeps.velocity.imp id Or.inl⟩
    obtain ⟨hbefore, hprevious, hoffset⟩ := hkeeps.history hsampled
    obtain ⟨raw, hraw, htrace⟩ := hw hbefore
    exact ⟨raw, hobserve.trans hraw, by rw [hprevious, hoffset, htrace]⟩

/-- In every reachable world the estimator's last count is that of the last accepted sample. -/
lemma traces_runtime (env : Environment) (as : List Action) :
    (runtime env as).Traces (lastSample env as) := by
  have hstep : ∀ a (v : World) last, v.Regular ∧ v.Traces last → True →
      (step a v).Regular ∧ (step a v).Traces (observeSample a v last) :=
    fun a v last hv _ => ⟨hv.1.step a, (traces_step hv.1 hv.2).1⟩
  have hinit : (runtimeInit env).Traces none := nofun
  exact (Machine.watch_invariant (P := fun _ _ => True) hstep ⟨regular_runtimeInit env, hinit⟩
    (Machine.along_of_forall fun _ _ => trivial)).2

/-- **Origin of a velocity.**  Every velocity of a run is zero or was reported by a sample as a
displacement of the raw counter. -/
theorem velocity_runtime (env : Environment) (as : List Action) :
    (runtime env as).motion.data.velocity = 0 ∨
      ∃ bs a cs, as = bs ++ a :: cs ∧ ReportsDisplacement a (runtime env bs) (lastSample env bs) ∧
        (runtime env as).motion.data.velocity = (runtime env (bs ++ [a])).motion.data.velocity := by
  induction as using List.reverseRecOn with
  | nil => exact Or.inl rfl
  | append_singleton as a ih =>
    have hlast : runtime env (as ++ [a]) = step a (runtime env as) := Machine.run_append
    rw [hlast]
    have hlaw : AcceptsSample a (runtime env as) → _ := fun h =>
      velocity_of_acceptsSample h (traces_runtime env as)
    rcases (traces_step (a := a) (regular_runtime env as) (traces_runtime env as)).2 with
      hsame | hzero | haccept
    · rw [hsame]
      refine ih.imp id fun ⟨bs, b, cs, heq, hreport, hvelocity⟩ => ?_
      exact ⟨bs, b, cs ++ [a], by simp [heq], hreport, hvelocity⟩
    · exact Or.inl hzero
    · cases hsampled : (runtime env as).motion.sampled with
      | true => exact Or.inr ⟨as, a, [], rfl, (hlaw haccept).1 hsampled, by rw [hlast]⟩
      | false => exact Or.inl ((hlaw haccept).2 hsampled)

end MotionFirmware
