import MotionFirmware.Rtos.Phases
import MotionFirmware.Rtos.SafetyLatch

/-!
# The homing record

The state of the controller and the outcome of its homing attempt are written by different
functions.  They agree, `RUNNING` in `HOMING` and only there, at the end of every release of a run
in which no `RESET` is accepted while the controller is still in `HOMING`: such a `RESET` leads to
`IDLE` without closing the record.
-/

namespace MotionFirmware

variable [Rounding] {k : OperationKind} {w w' : World} {a : Action}

/-- The record of the attempt is open exactly in `HOMING`. -/
def MotionController.Coherent (m : MotionController) : Prop :=
  m.data.homing.result = .running ↔ m.data.state = .homing

omit [Rounding] in
/-- Closing a record leaves no running attempt. -/
lemma HomingSnapshot.abort_ne_running {h : HomingSnapshot} {r : HomingResult} (hr : r ≠ .running) :
    (h.abort r).result ≠ .running := by
  unfold HomingSnapshot.abort
  split_ifs with hrun
  · exact hr
  · exact hrun

omit [Rounding] in
/-- A record without a running attempt is coherent outside `HOMING`. -/
lemma coherent_of_ne {m : MotionController} (hresult : m.data.homing.result ≠ .running)
    (hstate : m.data.state ≠ .homing) : m.Coherent :=
  iff_of_false hresult hstate

omit [Rounding] in
/-- The record stays coherent where the outcome is kept and the state does not touch `HOMING`. -/
lemma MotionController.Coherent.of_ne {m m' : MotionController} (h : m.Coherent)
    (hhoming : m'.data.homing.result = m.data.homing.result) (hbefore : m.data.state ≠ .homing)
    (hafter : m'.data.state ≠ .homing) : m'.Coherent :=
  coherent_of_ne (hhoming ▸ fun hrun => hbefore (h.mp hrun)) hafter

omit [Rounding] in
/-- A latch that is adopted closes the record of a running attempt. -/
lemma coherent_of_latched (hlatched : w.safety.state = .fault ∨ w.safety.state = .estop)
    (hrecord : w.motion.data.homing.result = .running → w.motion.data.state = .homing) :
    (runtimeSafetySync w).motion.Coherent := by
  have hne : w.safety.state ≠ .idle := by rcases hlatched with h | h <;> rw [h] <;> exact nofun
  refine coherent_of_ne ?_ ?_
  · rw [runtimeSafetySync_homing hne]
    split_ifs with hhome
    · refine HomingSnapshot.abort_ne_running ?_
      unfold latchResult
      split_ifs <;> exact nofun
    · exact fun hrun => hhome (hrecord hrun)
  · rw [runtimeSafetySync_state hne]
    rcases hlatched with h | h <;> rw [h] <;> exact nofun

omit [Rounding] in
/-- Adopting the state of the safety manager keeps the record coherent. -/
lemma coherent_runtimeSafetySync (hs : w.safety.Settled) (h : w.motion.Coherent) :
    (runtimeSafetySync w).motion.Coherent := by
  rcases hs with hidle | hlatched
  · rwa [runtimeSafetySync_of_idle hidle]
  · exact coherent_of_latched hlatched h.mp

/-- **Step lemma.**  Apart from a sample and its failure every operation keeps the record coherent,
provided a reset does not find the controller in `HOMING`. -/
theorem Operation.coherent (h : Operation k w w') (hk : k ≠ .sample ∧ k ≠ .abort)
    (hreset : k = .reset → w.motion.data.state ≠ .homing) (hs : w.safety.Settled)
    (hw : w.motion.Coherent) : w'.motion.Coherent := by
  cases hp : k.passive with
  | true =>
    rw [h.motion_eq hp]
    exact hw
  | false =>
    cases h with
    | configure h =>
      obtain ⟨-, pid, -, rfl⟩ := motionInit_some h
      exact coherent_of_ne (by simp) (by simp)
    | sample => exact absurd rfl hk.1
    | sync => exact coherent_runtimeSafetySync hs hw
    | reset => exact hw.of_ne rfl (hreset rfl) (fun h => by cases h)
    | stopHoming hidle hhome =>
      exact coherent_of_ne (HomingSnapshot.abort_ne_running (by decide)) (fun h => by cases h)
    | home hidle h =>
      obtain ⟨-, -, -, heq⟩ := homingBegin_accepted h
      rw [heq]
      exact iff_of_true rfl rfl
    | halt hidle hhome =>
      refine hw.of_ne (congrArg HomingSnapshot.result (halt_keeps w.motion).homing) hhome ?_
      rw [halt_state]
      split_ifs
      · decide
      · exact hhome
    | move hidle hstate =>
      refine hw.of_ne rfl ?_ (fun h => by cases h)
      rw [hstate]
      decide
    | @drive _ dt hhome =>
      have hupdated := (updated_keeps w.motion).homing
      rcases motionUpdate_cases w.toAxis dt with ⟨y, hframe, hstate, heq⟩ | ⟨-, heq⟩ |
        ⟨out, pid, hmoving, -, heq⟩
      · rw [heq]
        refine hw.of_ne (congrArg HomingSnapshot.result hframe.fail.homing) hhome ?_
        rw [fail_state, hstate]
        split_ifs
        · decide
        · exact hhome
      · rw [heq]
        refine hw.of_ne (congrArg HomingSnapshot.result hupdated) hhome ?_
        rcases updated_state w.motion with h | ⟨-, h⟩
        · exact fun hrest => hhome (h ▸ hrest)
        · simp [motionRest, h]
      · rw [heq]
        refine hw.of_ne (congrArg HomingSnapshot.result hupdated) hhome ?_
        simp [MotionController.withOutput, hmoving]
    | seek hhome hsame =>
      unfold MotionController.Coherent
      rw [hsame.result, hsame.state]
      exact hw
    | @expire _ now hhome hrun =>
      refine coherent_of_latched (raiseTimeout_latched _ _) fun hrunning => ?_
      rw [raiseTimeout_motion] at hrunning
      exact absurd hrunning (HomingSnapshot.abort_ne_running (by decide))
    | complete => exact coherent_of_ne (fun h => by cases h) (fun h => by cases h)
    | abort => exact absurd rfl hk.2
    | _ => simp [OperationKind.passive] at hp

/-! ### The record over a release -/

/-- The state that the homing record belongs to: after a failed sample the one that the release has
found, since the sample has already left it. -/
def World.recordState (w : World) : AppState :=
  if w.task.phase = .reconcile ∧ w.task.sampled = false then w.task.beforeSafety
  else w.motion.data.state

/-- The homing record is coherent, and a release remembers the state that it has found. -/
structure World.RecordCoherent (w : World) : Prop where
  record : w.motion.data.homing.result = .running ↔ w.recordState = .homing
  found : w.task.phase = .sample → w.task.beforeSafety = w.motion.data.state

omit [Rounding] in
/-- The failure path of a sample closes the record and adopts the latch. -/
lemma coherent_sampleFailed (hw : w.motion.data.homing.result = .running ↔
    w.task.beforeSafety = .homing) :
    (runtimeSafetySync (sampleFailed w)).motion.Coherent := by
  unfold sampleFailed
  dsimp only
  have hcount : (if w.task.beforeSafety.active then w.countAbort else w).task = w.task := by
    split_ifs <;> rfl
  have hmotion : (if w.task.beforeSafety.active then w.countAbort else w).motion = w.motion := by
    split_ifs <;> rfl
  refine coherent_of_latched (raiseInternal_latched _ _) fun hrunning => ?_
  rw [raiseInternal_motion, hcount] at hrunning
  by_cases hhome : w.task.beforeSafety = .homing
  · rw [if_pos hhome] at hrunning
    exact absurd hrunning (HomingSnapshot.abort_ne_running nofun)
  · rw [if_neg hhome, hmotion] at hrunning
    exact absurd (hw.mp hrunning) hhome

/-- A sample keeps the record; a failing one leaves `HOMING` without closing it. -/
lemma recordCoherent_taskSample (hphase : w.task.phase = .sample) (hw : w.RecordCoherent) :
    (taskSample w).RecordCoherent := by
  have hrecord : w.motion.data.homing.result = .running ↔ w.motion.data.state = .homing := by
    have := hw.record
    simpa [World.recordState, hphase] using this
  have hfound := hw.found hphase
  refine ⟨?_, nofun⟩
  rcases motionSample_cases w.toAxis w.task.dt with ⟨y, hframe, -, heq⟩ | ⟨count, -, -, heq⟩
  · have hhoming := hframe.fail.homing
    simp [World.recordState, taskSample, heq, hhoming, hfound, hrecord]
  · simp [World.recordState, taskSample, heq, hrecord, MotionController.accept]

/-- The step resets the safety manager while the controller is still in `HOMING`. -/
def ResetsHoming (a : Action) (w : World) : Prop :=
  AcceptsReset a w ∧ w.motion.data.state = .homing

instance (a : Action) (w : World) : Decidable (ResetsHoming a w) :=
  inferInstanceAs (Decidable (_ ∧ _))

omit [Rounding] in
/-- Outside the section after the sample the record belongs to the state of the controller. -/
lemma recordState_of_ne (h : w.task.phase ≠ .reconcile) : w.recordState = w.motion.data.state :=
  if_neg fun h' => h h'.1

/-- Only the sample leaves a record that may belong to an earlier state. -/
lemma recordState_motionStep {r : Option MotionCommand} (h : w.task.phase ≠ .sample) :
    (step (.motion r) w).recordState = (step (.motion r) w).motion.data.state := by
  refine recordState_of_ne fun hreconcile => ?_
  have hfollows := follows_motionStep w r
  simp only [step] at hreconcile
  rw [hreconcile] at hfollows
  exact h hfollows.of_reconcile

/-- **Step lemma.**  A release that is about to take its sample remembers the state that it has
found. -/
lemma beforeSafety_step
    (hw : w.task.phase = .sample → w.task.beforeSafety = w.motion.data.state)
    (hphase : (step a w).task.phase = .sample) :
    (step a w).task.beforeSafety = (step a w).motion.data.state := by
  by_cases hother : ∀ r, a ≠ .motion r
  · obtain ⟨htask, hmotion⟩ := step_other (w := w) hother
    rw [htask] at hphase
    rw [htask, hmotion]
    exact hw hphase
  · push Not at hother
    obtain ⟨r, rfl⟩ := hother
    have hfollows := follows_motionStep w r
    simp only [step] at hphase ⊢
    rw [hphase] at hfollows
    simp only [motionStep, hfollows.of_sample]
    rfl

/-- **Step lemma.**  A step that does not reset a seeking controller keeps the record coherent. -/
theorem recordCoherent_step (hreg : w.Regular) (hreset : ¬ ResetsHoming a w)
    (hw : w.RecordCoherent) : (step a w).RecordCoherent := by
  refine ⟨?_, beforeSafety_step hw.found⟩
  by_cases hother : ∀ r, a ≠ .motion r
  · obtain ⟨htask, hmotion⟩ := step_other (w := w) hother
    rw [World.recordState, htask, hmotion]
    exact hw.record
  push Not at hother
  obtain ⟨r, rfl⟩ := hother
  by_cases hsample : w.task.phase = .sample
  · have heq : step (.motion r) w = taskSample w := by
      simp only [step, motionStep, hsample]
    rw [heq]
    exact (recordCoherent_taskSample hsample hw).record
  rw [recordState_motionStep hsample]
  by_cases hfailed : w.task.phase = .reconcile ∧ w.task.sampled = false
  · have heq : (step (.motion r) w).motion = (runtimeSafetySync (sampleFailed w)).motion := by
      simp only [step, motionStep, hfailed.1, taskReconcile, hfailed.2, World.goto]
      rfl
    rw [heq]
    refine coherent_sampleFailed ?_
    have := hw.record
    rwa [World.recordState, if_pos hfailed] at this
  · have hrecord : w.motion.Coherent := by
      have := hw.record
      rwa [World.recordState, if_neg hfailed] at this
    have hboth : (step (.motion r) w).motion.Coherent ∧ (step (.motion r) w).safety.Settled := by
      refine (operations_step hreg (.motion r)).invariant
        (I := fun v => v.motion.Coherent ∧ v.safety.Settled) (fun k v v' hk hop hv => ?_)
        ⟨hrecord, hreg.settled⟩
      refine ⟨hop.coherent ⟨?_, ?_⟩ ?_ hv.2 hv.1, hop.settled hv.2⟩
      · rintro rfl
        obtain ⟨r', -, hphase⟩ := hk
        exact hsample hphase
      · rintro rfl
        exact hfailed hk.2
      · rintro rfl hhome
        obtain ⟨haccepts, hsame⟩ := hk
        exact hreset ⟨haccepts, hsame ▸ hhome⟩
    exact hboth.1

/-- The publication at the end of a release copies the private record. -/
lemma published_of_updates (h : Updates a w) :
    (step a w).rt.motion = (step a w).motion.data ∧
      (step a w).recordState = (step a w).motion.data.state := by
  obtain ⟨r, rfl, hphase⟩ := h
  have hstep : step (.motion r) w = taskUpdate w := by
    simp only [step, motionStep, hphase]
  rw [hstep]
  exact ⟨rfl, if_neg fun h => absurd h.1 (fun h => by cases h)⟩

/-- A `RESET` that finds the controller seeking leaves a running attempt in `IDLE`. -/
lemma running_of_resetsHoming (hw : w.motion.Coherent) (h : ResetsHoming a w) :
    (step a w).motion.data.homing.result = .running ∧ (step a w).motion.data.state = .idle := by
  obtain ⟨s, phase, -, heq⟩ := step_of_acceptsReset h.1
  rw [heq]
  refine ⟨?_, rfl⟩
  have hmotion : (runtimeSafetyEvaluate w).motion = w.motion := runtimeSafetyEvaluate_motion w
  change (runtimeSafetyEvaluate w).motion.data.homing.result = .running
  rw [hmotion]
  exact hw.mpr h.2

/-- **Coherence of the homing record.**  In a run that resets no seeking controller, every snapshot
that a release publishes at its end shows a running attempt exactly in `HOMING`; the first `RESET`
that does leaves a running attempt in `IDLE`. -/
theorem homing_record_coherent (env : Environment) (as : List Action)
    (h : Machine.Along step (fun a v => ¬ ResetsHoming a v) (runtimeInit env) as) :
    Machine.Along step (fun a v => Updates a v →
      ((step a v).rt.motion.homing.result = .running ↔ (step a v).rt.motion.state = .homing))
      (runtimeInit env) as ∧
    ∀ a, ResetsHoming a (runtime env as) →
      (step a (runtime env as)).motion.data.homing.result = .running ∧
        (step a (runtime env as)).motion.data.state = .idle := by
  have hinit : (runtimeInit env).Regular ∧ (runtimeInit env).RecordCoherent :=
    ⟨regular_runtimeInit env, ⟨iff_of_false nofun nofun, nofun⟩⟩
  have hstep : ∀ a v, v.Regular ∧ v.RecordCoherent → ¬ ResetsHoming a v →
      (step a v).Regular ∧ (step a v).RecordCoherent := by
    intro a v hv hnot
    exact ⟨hv.1.step a, recordCoherent_step hv.1 hnot hv.2⟩
  constructor
  · refine Machine.along_of_invariant hstep (fun a v hv hnot hupdates => ?_) hinit h
    obtain ⟨hmotion, hstate⟩ := published_of_updates hupdates
    rw [hmotion, ← hstate]
    exact (hstep a v hv hnot).2.record
  · intro a hreset
    have hcoherent : (runtime env as).RecordCoherent := (Machine.run_invariant hstep hinit h).2
    refine running_of_resetsHoming ?_ hreset
    have hphase : (runtime env as).task.phase ≠ .reconcile := by
      obtain ⟨command, ⟨r, i, -, hphase, -⟩, -, -⟩ := hreset.1
      rw [hphase]
      exact nofun
    have hrecord := hcoherent.record
    rwa [World.recordState, if_neg fun h => hphase h.1] at hrecord

/-- The switches stay open except that the fourth reading shows the E-stop; time advances between
releases. -/
def estopGlitch : Environment where
  gpio n := some { estop := n == 3 }
  rawCount _ := some 1000
  clock n := if n < 8 then n else if n < 11 then 20 else 30

/-- A `HOME`, and a second release in which an evaluation trips after the state has been adopted and
before a `RESET` is executed; its last section remains to be done. -/
def resetAfterTrip : List Action :=
  startUp ++ release [⟨.home, 0⟩] ++
    [.motion none, .motion none, .motion none, .motion none, .safety,
      .motion (some ⟨.reset, 0⟩), .motion none, .motion none, .motion none]

omit [Rounding] in
/-- A `HOME` that is neither disturbed nor reset. -/
theorem homing_record_coherent_home :
    Machine.Along (@step Binary32.rounding) (fun a v => Updates a v →
      ((@step Binary32.rounding a v).rt.motion.homing.result = .running ↔
        (@step Binary32.rounding a v).rt.motion.state = .homing))
      (runtimeInit estopGlitch) (startUp ++ release [⟨.home, 0⟩]) :=
  (@homing_record_coherent Binary32.rounding estopGlitch (startUp ++ release [⟨.home, 0⟩])
    (by decide +kernel)).1

omit [Rounding] in
/-- A trip between the adoption of the safety state and a `RESET` of the same release: the snapshot
published at the end of the release shows a running attempt in `IDLE`. -/
theorem homing_record_reset_after_trip :
    (runtime32 estopGlitch resetAfterTrip).task.phase = .update ∧
      ¬ ((runtime32 estopGlitch (resetAfterTrip ++ [.motion none])).rt.motion.homing.result =
          .running ↔
        (runtime32 estopGlitch (resetAfterTrip ++ [.motion none])).rt.motion.state = .homing) := by
  decide +kernel

end MotionFirmware
