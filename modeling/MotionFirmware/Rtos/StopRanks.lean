import MotionFirmware.Control.MotionRuns
import MotionFirmware.Foundation.Ranking
import MotionFirmware.Rtos.Answers

/-!
# The way to the checkpoints

Once a stop is requested, every task comes to its next checkpoint after a bounded number of its own
steps, whatever the others do and however full the queue of records is.  The rank of a task bounds
these steps: the sections or calls that it has still to make, and two steps for every record that it
has to send.
-/

namespace MotionFirmware

section Ranks

/-- The steps that an outbox takes at most. -/
def Outbox.rank (o : Outbox) : ℕ := 2 * o.reports.length + o.failed.toNat

/-- The steps that a section of Motion takes at most, with its reports. -/
def sectionSteps : ℕ := 10

/-- The steps of Motion from a section to the end of its release. -/
def Phase.rank : Phase → ℕ
  | .create => 3 * sectionSteps
  | .configure => 2 * sectionSteps
  | .anchor => sectionSteps
  | .begin => 11 * sectionSteps
  | .clock => 10 * sectionSteps
  | .sample => 9 * sectionSteps
  | .reconcile => 8 * sectionSteps
  | .receive i => (3 * (commandLimit - i) + 1) * sectionSteps
  | .execute i _ => 3 * (commandLimit - i) * sectionSteps
  | .report i _ => (3 * (commandLimit - i) - 1) * sectionSteps
  | .update => sectionSteps

variable {δ ε : Type}

/-- The steps of Motion from a stage, and a section in a release, to its suspension. -/
def MotionStage.rank (phase : Phase) : MotionStage → ℕ
  | .running => phase.rank + 4
  | .heartbeat => 4
  | .wait => 3
  | .checkpoint => 2
  | .disable => 1
  | .parked => 0

/-- The steps of Motion until it is parked, once a stop is requested. -/
def Firmware.motionRank (f : Firmware δ) : ℕ :=
  (f.outbox .motion).rank +
    (f.motion.rank f.world.task.phase - f.pipeline.motion.holding.length)

end Ranks

/-! ### The reports of a section -/

section Reports

/-- `transition` says at most two things. -/
lemma transition_length (old new : AppState) : (transition old new).length ≤ 2 := by
  have hlatch : (latchTransition old new).length ≤ 1 := by
    unfold latchTransition
    split_ifs <;> simp
  have hmotion : (motionTransition old new).length ≤ 1 := by
    unfold motionTransition
    split_ifs <;> simp
  rw [transition, List.length_append]
  omega

lemma stateReports_length (w v : World) : (stateReports w v).length ≤ 2 := by
  unfold stateReports
  split <;> first | exact transition_length _ _ | exact Nat.zero_le _

/-- A section of Motion has at most four reports. -/
lemma motionReports_length [Rounding] (w v : World) (received : Option MotionCommand) :
    (motionReports w v received).length ≤ 4 := by
  have hstate := stateReports_length w v
  unfold motionReports
  split
  · exact Nat.le_of_ble_eq_true rfl
  · split_ifs <;> simp
  · unfold applicationReport
    split <;> simp
  · rw [List.length_map]
    omega
  · unfold receiveReports
    split
    · simp
    · split_ifs <;> simp
  · rw [List.length_append, List.length_map]
    split <;> simp <;> omega
  · rw [List.length_append, List.length_append, List.length_map]
    split_ifs <;> simp <;> omega
  · simp

/-- Safety has at most two reports. -/
lemma safetyReports_length (w v : World) : (safetyReports w v).length ≤ 2 := by
  unfold safetyReports
  split_ifs <;> simp

/-- Communications has at most one report. -/
lemma commsReports_length {δ : Type} (p : Pipeline δ) : (commsReports p).length ≤ 1 := by
  unfold commsReports
  split
  · simp
  · split <;> simp
  · simp

end Reports

variable {δ ε : Type} {driver : InputDriver δ ε} {f : Firmware δ}

/-! ### The reports of a task come to an end -/

lemma Outbox.rank_of_empty {o : Outbox} (h : o.empty = true) : o.rank = 0 := by
  obtain ⟨hreports, hfailed⟩ : o.reports = [] ∧ o.failed = false := by
    unfold Outbox.empty at h
    rwa [Bool.and_eq_true, List.isEmpty_iff, Bool.not_eq_true'] at h
  unfold Outbox.rank
  rw [hreports, hfailed]
  rfl

/-- A step of the reports is one step fewer. -/
lemma rank_sendRecord (now : UInt32) (d : Diagnostics) {o : Outbox} (h : o.empty = false) :
    (sendRecord now d o).2.rank + 1 ≤ o.rank := by
  unfold sendRecord Outbox.rank
  cases hfailed : o.failed with
  | true => simp
  | false =>
    cases hreports : o.reports with
    | nil =>
      unfold Outbox.empty at h
      rw [hfailed, hreports] at h
      exact absurd h nofun
    | cons report reports =>
      have hbit := Bool.toNat_le (!(d.queue.send (report.record now)).1)
      simp only [Bool.false_eq_true, if_false, List.length_cons, Bool.toNat_false]
      omega

lemma rank_report {who : Reporter} (now : UInt32) (h : (f.outbox who).empty = false) :
    ((f.report who now).outbox who).rank + 1 ≤ (f.outbox who).rank := by
  unfold Firmware.report
  dsimp only
  rw [Function.update_self]
  exact rank_sendRecord now f.diagnostics h

/-- What a task is given to report takes two steps for each report. -/
lemma rank_enqueue (who : Reporter) (reports : List Report) (f : Firmware δ) :
    ((f.enqueue who reports).outbox who).rank = 2 * reports.length := by
  unfold Firmware.enqueue Outbox.rank
  dsimp only
  rw [Function.update_self]
  rfl

variable [Rounding]

/-! ### Motion -/

omit [Rounding] in
/-- The next section of a release is nearer to its end. -/
lemma Phase.Follows.rank_le {p q : Phase} (h : p.Follows q) {m : MotionAt} (hmeets : p.Meets m)
    (hrunning : Firmware.afterSection p = .running) (hconfigured : q ≠ .configure ∨ p = .create) :
    q.rank + sectionSteps ≤ p.rank := by
  unfold sectionSteps
  cases h with
  | refused => exact absurd rfl (hconfigured.resolve_right nofun)
  | anchor | update => exact absurd hrunning nofun
  | receive i command =>
    simp only [Phase.rank, sectionSteps]
    omega
  | execute i command result =>
    have hi : i < commandLimit := hmeets.1
    simp only [Phase.rank, sectionSteps]
    omega
  | skip h =>
    have hi := hmeets.1
    rcases h with rfl | rfl
    all_goals
      simp only [Phase.rank, sectionSteps]
      omega
  | report h =>
    have hi := hmeets.1
    rcases h with rfl | rfl
    all_goals
      simp only [Phase.rank, sectionSteps]
      omega
  | _ => simp [Phase.rank, sectionSteps, commandLimit]

omit [Rounding] in
lemma Phase.Follows.of_configure {p : Phase} (h : p.Follows .configure) :
    p = .create ∨ p = .configure := by
  cases h with
  | create => exact Or.inl rfl
  | refused => exact Or.inr rfl
  | skip h => rcases h with h | h <;> exact absurd h nofun
  | report h => rcases h with h | h <;> exact absurd h nofun

/-- The configuration is not refused. -/
lemma motionStep_ne_configure (w : World) (received : Option MotionCommand) :
    (motionStep w received).task.phase ≠ .configure ∨ w.task.phase = .create := by
  have hfollows := follows_motionStep w received
  by_cases hnext : (motionStep w received).task.phase = .configure
  · rw [hnext] at hfollows
    rcases hfollows.of_configure with hcreate | hconfigure
    · exact Or.inr hcreate
    · obtain ⟨x, hx⟩ := motionInit_default w.toAxis
      have hanchor : (motionStep w received).task.phase = .anchor := by
        unfold motionStep
        rw [hconfigure]
        dsimp only
        unfold taskConfigure
        rw [hx]
      exact absurd (hanchor.symm.trans hnext) nofun
  · exact Or.inl hnext

/-- A section of Motion brings it nearer to its checkpoint. -/
lemma rank_runSection (received : Option MotionCommand) {m : MotionAt}
    (hmeets : f.world.task.phase.Meets m) :
    ((f.runSection received).outbox .motion).rank +
        (f.runSection received).motion.rank (f.runSection received).world.task.phase + 2 ≤
      f.world.task.phase.rank + 4 := by
  have houtbox : ((f.runSection received).outbox .motion).rank ≤ 8 := by
    have hlength := motionReports_length f.world (motionStep f.world received) received
    have hrank := rank_enqueue .motion
      (motionReports f.world (motionStep f.world received) received) f
    change ((f.enqueue .motion _).outbox .motion).rank ≤ 8
    omega
  have hnext := (follows_motionStep f.world received).rank_le hmeets
  have hconfigured := motionStep_ne_configure f.world received
  have hstage : (f.runSection received).motion = Firmware.afterSection f.world.task.phase := rfl
  have hworld : (f.runSection received).world = motionStep f.world received := rfl
  rw [hstage, hworld]
  cases hafter : Firmware.afterSection f.world.task.phase with
  | running =>
    have hnearer := hnext hafter hconfigured
    unfold sectionSteps at hnearer
    simp only [MotionStage.rank]
    omega
  | _ =>
    have hsteps : 10 ≤ f.world.task.phase.rank := by
      generalize f.world.task.phase = phase at hafter
      cases phase with
      | anchor | update => exact Nat.le_refl _
      | _ => exact absurd hafter nofun
    simp only [MotionStage.rank]
    omega

omit [Rounding] in
/-- The rank of Motion without the step that a command in its hand has saved. -/
lemma motionRank_le (f : Firmware δ) :
    f.motionRank ≤ (f.outbox .motion).rank + f.motion.rank f.world.task.phase := by
  unfold Firmware.motionRank
  omega

omit [Rounding] in
lemma holding_length_le (m : MotionAt) : m.holding.length ≤ 1 := by
  cases m <;> simp [MotionAt.holding]

/-- The section that receives a command. -/
lemma motionRank_receiveSection (h : (f.outbox .motion).empty = true) {i : ℕ}
    (hrunning : f.motion = .running) (hphase : f.world.task.phase = .receive i)
    (hmeets : f.world.task.phase.Meets f.pipeline.motion) :
    f.receiveSection.motionRank + 1 ≤ f.motionRank := by
  have hrank : f.motionRank = f.world.task.phase.rank + 4 - f.pipeline.motion.holding.length := by
    unfold Firmware.motionRank
    rw [Outbox.rank_of_empty h, hrunning]
    exact Nat.zero_add _
  have hholding := holding_length_le f.pipeline.motion
  have hsection : ∀ received pipeline,
      ({ f.runSection received with pipeline := pipeline } : Firmware δ).motionRank + 2 ≤
        f.world.task.phase.rank + 4 := by
    intro received pipeline
    have hle := motionRank_le ({ f.runSection received with pipeline := pipeline } : Firmware δ)
    exact (Nat.add_le_add_right hle 2).trans (rank_runSection received hmeets)
  have hrun : ∀ received pipeline,
      ({ f.runSection received with pipeline := pipeline } : Firmware δ).motionRank + 1 ≤
        f.motionRank := by
    intro received pipeline
    rw [hrank]
    exact Nat.le_sub_of_add_le
      ((Nat.add_le_add_left hholding _).trans (hsection received pipeline))
  unfold Firmware.receiveSection
  rw [hphase] at hmeets
  obtain ⟨hi, hmotion | ⟨command, hmotion⟩⟩ := hmeets
  · rw [hmotion]
    dsimp only
    rcases motionTaskCommands_receive hmotion hi with ⟨hnone, -⟩ | ⟨command, hsome, -⟩
    · rw [hnone]
      exact hrun none _
    · rw [hsome]
      have htaken : ({ f with pipeline := motionTaskCommands f.pipeline } : Firmware δ).motionRank =
          f.world.task.phase.rank + 4 - 1 := by
        unfold Firmware.motionRank
        dsimp only
        rw [Outbox.rank_of_empty h, hrunning, hsome]
        exact Nat.zero_add _
      dsimp only
      rw [htaken, hrank, hmotion]
      exact Nat.le_refl _
  · rw [hmotion]
    exact hrun (some command) _

/-- A section of a release. -/
lemma motionRank_motionSection (h : (f.outbox .motion).empty = true)
    (hrunning : f.motion = .running) (hmeets : f.world.task.phase.Meets f.pipeline.motion) :
    f.motionSection.motionRank + 1 ≤ f.motionRank := by
  have hrun : (∀ i, f.world.task.phase ≠ .receive i) → ∀ pipeline,
      ({ f.runSection none with pipeline := pipeline } : Firmware δ).motionRank + 1 ≤
        f.motionRank := by
    intro hreceive pipeline
    have hholding : f.pipeline.motion.holding = [] := by
      revert hmeets
      cases hphase : f.world.task.phase with
      | receive i => exact absurd hphase (hreceive i)
      | execute | report =>
        intro hmeets
        rw [hmeets.2]
        rfl
      | update =>
        rintro (hplace | hplace)
        all_goals
          rw [hplace]
          rfl
      | _ =>
        intro hmeets
        rw [hmeets]
        rfl
    have hrank : f.motionRank = f.world.task.phase.rank + 4 := by
      unfold Firmware.motionRank
      rw [Outbox.rank_of_empty h, hrunning, hholding]
      exact Nat.zero_add _
    have hle := motionRank_le ({ f.runSection none with pipeline := pipeline } : Firmware δ)
    rw [hrank]
    exact Nat.le_of_succ_le ((Nat.add_le_add_right hle 2).trans (rank_runSection none hmeets))
  unfold Firmware.motionSection
  cases hphase : f.world.task.phase with
  | receive i => exact motionRank_receiveSection h hrunning hphase hmeets
  | _ => exact hrun (fun i hi => absurd (hphase.symm.trans hi) nofun) _

/-- The other tasks leave the rank of Motion as it is. -/
lemma motionRank_other {a : FirmwareAction ε} (h : ∀ now, a ≠ .motion now) (f : Firmware δ) :
    (firmwareStep driver a f).motionRank = f.motionRank := by
  have hsame : SameMotion f (firmwareStep driver a f) := sameMotion_step h f
  have hreporter : a.reporter ≠ some .motion := by
    cases a with
    | motion now => exact absurd rfl (h now)
    | _ => exact nofun
  unfold Firmware.motionRank
  rw [hsame.stage, hsame.phase, hsame.place, firmwareStep_outbox hreporter]

/-- A step of Motion lowers its rank. -/
lemma motionRank_motion (hf : f.Aligned) (hstop : f.pipeline.stopping = true) (now : UInt32) :
    (firmwareStep driver (.motion now) f).motionRank ≤ f.motionRank - 1 := by
  unfold firmwareStep reportOr
  cases hempty : (f.outbox .motion).empty with
  | false =>
    have hreport := rank_report now hempty
    have hrank : (f.report .motion now).motionRank + 1 ≤ f.motionRank := by
      unfold Firmware.motionRank
      change _ + (f.motion.rank f.world.task.phase - f.pipeline.motion.holding.length) + 1 ≤ _
      omega
    exact Nat.le_sub_of_add_le hrank
  | true =>
    have hzero := Outbox.rank_of_empty hempty
    dsimp only
    rw [if_pos rfl]
    unfold Firmware.Aligned at hf
    unfold Firmware.motionTaskStep
    cases hstage : f.motion with
    | running =>
      rw [hstage] at hf
      exact Nat.le_sub_of_add_le (motionRank_motionSection hempty hstage hf)
    | heartbeat =>
      rw [hstage] at hf
      have hplace : (f.beat .motion).pipeline.motion = .checkpoint :=
        (sameMotion_beat .motion f).place.trans hf.2
      unfold Firmware.motionRank
      dsimp only
      rw [beat_outbox, hzero, hplace, hstage, hf.2]
      exact Nat.le_refl _
    | wait =>
      rw [hstage] at hf
      unfold Firmware.motionRank
      dsimp only
      rw [hzero, hstage, hf.2]
      exact Nat.le_refl _
    | checkpoint =>
      rw [hstage] at hf
      have hnext : (motionTaskCommands f.pipeline).motion = .parked := by
        simp only [motionTaskCommands, hf.2, hstop, if_true]
      unfold Firmware.motionRank
      dsimp only
      rw [hzero, hnext, hstage, hf.2, hstop]
      exact Nat.le_refl _
    | disable =>
      rw [hstage] at hf
      unfold Firmware.motionRank
      dsimp only
      rw [hzero, hstage, hf.2.1]
      exact Nat.le_refl _
    | parked =>
      rw [hstage] at hf
      unfold Firmware.motionRank
      rw [hzero, hstage, hf.2.1]
      exact Nat.le_refl _

/-- The firmware is asked to stop. -/
def Firmware.Stopping (f : Firmware δ) : Prop := f.Aligned ∧ f.pipeline.stopping = true

/-- A request to stop is not taken back. -/
lemma stopping_step (h : f.pipeline.stopping = true) (a : FirmwareAction ε) :
    (firmwareStep driver a f).pipeline.stopping = true := by
  rw [pipeline_step]
  refine Machine.run_invariant_of_forall (I := fun p : Pipeline δ => p.stopping = true)
    (fun b p hp => ?_) h
  by_cases hb : b = .motion
  · subst hb
    change (motionTaskCommands p).stopping = true
    unfold motionTaskCommands
    split
    · exact hp
    · split_ifs
      · split <;> exact hp
      · exact hp
    · exact hp
    · exact hp
  · exact (pipelineStep_motion hb p).2 hp

lemma Firmware.Stopping.step (h : f.Stopping) (a : FirmwareAction ε) :
    (firmwareStep driver a f).Stopping := ⟨h.1.step a, stopping_step h.2 a⟩

/-- The step is one of Motion. -/
def FirmwareAction.isMotion (a : FirmwareAction ε) : Bool := a.reporter = some .motion

/-- Every step of Motion brings it nearer to its suspension. -/
lemma ranks_motion (driver : InputDriver δ ε) :
    Machine.Ranks (firmwareStep driver) (fun a _ => a.isMotion) Firmware.motionRank
      Firmware.Stopping where
  keeps a _ hf := hf.step a
  descends a f hf := by
    by_cases hother : ∀ now, a ≠ .motion now
    · rw [motionRank_other hother]
      have hnone : a.isMotion = false := by
        cases a with
        | motion now => exact absurd rfl (hother now)
        | _ => rfl
      rw [hnone]
      exact Nat.le_refl _
    · push Not at hother
      obtain ⟨now, rfl⟩ := hother
      exact motionRank_motion hf.1 hf.2 now

omit [Rounding] in
/-- Motion with nothing left to do is parked. -/
lemma motion_of_rank (hf : f.Aligned) (h : f.motionRank = 0) : f.motion = .parked := by
  unfold Firmware.motionRank at h
  unfold Firmware.Aligned at hf
  have hholding := holding_length_le f.pipeline.motion
  cases hstage : f.motion with
  | parked => rfl
  | running =>
    rw [hstage] at h
    simp only [MotionStage.rank] at h
    omega
  | heartbeat | wait | checkpoint =>
    rw [hstage] at h hf
    rw [hf.2] at h
    simp [MotionStage.rank, MotionAt.holding] at h
  | disable =>
    rw [hstage] at h hf
    rw [hf.2.1] at h
    simp [MotionStage.rank, MotionAt.holding] at h

/-! ### Safety and Telemetry -/

/-- The steps of Safety until it is parked. -/
def Firmware.safetyRank (f : Firmware δ) : ℕ :=
  (f.outbox .safety).rank +
    match f.safety with
    | .heartbeat => 8
    | .evaluate => 7
    | .wait => 2
    | .checkpoint => 1
    | .parked => 0

/-- The steps of Telemetry until it is parked. -/
def Firmware.telemetryRank (f : Firmware δ) : ℕ :=
  match f.telemetry with
  | .receive i => 2 * (diagnosticCapacity - i) + 5
  | .emit i _ => 2 * (diagnosticCapacity - (i + 1)) + 6
  | .count => 4
  | .snapshot => 3
  | .wait => 2
  | .checkpoint => 1
  | .parked => 0

/-- Motion leaves the stages of Safety and Telemetry as they are. -/
lemma motionTaskStep_stages (f : Firmware δ) :
    f.motionTaskStep.safety = f.safety ∧ f.motionTaskStep.telemetry = f.telemetry := by
  unfold Firmware.motionTaskStep
  cases f.motion with
  | running =>
    dsimp only
    unfold Firmware.motionSection
    split
    · unfold Firmware.receiveSection
      split
      · exact ⟨rfl, rfl⟩
      · dsimp only
        split <;> exact ⟨rfl, rfl⟩
    · exact ⟨rfl, rfl⟩
    · exact ⟨rfl, rfl⟩
  | heartbeat =>
    dsimp only
    unfold Firmware.beat
    split_ifs <;> exact ⟨rfl, rfl⟩
  | _ => exact ⟨rfl, rfl⟩

omit [Rounding] in
/-- Communications leaves the stages of Safety and Telemetry as they are. -/
lemma commsStep_stages (f : Firmware δ) :
    (f.commsStep driver).safety = f.safety ∧ (f.commsStep driver).telemetry = f.telemetry := by
  unfold Firmware.commsStep
  cases f.pipeline.comms with
  | heartbeat =>
    dsimp only
    unfold Firmware.beat
    split_ifs <;> exact ⟨rfl, rfl⟩
  | _ => exact ⟨rfl, rfl⟩

/-- Only Safety moves its stage. -/
lemma firmwareStep_safety {a : FirmwareAction ε} (h : ∀ now, a ≠ .safety now) (f : Firmware δ) :
    (firmwareStep driver a f).safety = f.safety := by
  cases a with
  | safety now => exact absurd rfl (h now)
  | motion now =>
    unfold firmwareStep reportOr
    dsimp only
    split_ifs
    · exact (motionTaskStep_stages f).1
    · rfl
  | comms now =>
    unfold firmwareStep reportOr
    dsimp only
    split_ifs
    · exact (commsStep_stages f).1
    · rfl
  | telemetry =>
    unfold firmwareStep Firmware.telemetryStep
    dsimp only
    split <;> try rfl
    split_ifs
    · split <;> rfl
    · rfl
  | timeout =>
    unfold firmwareStep
    dsimp only
    split_ifs <;> rfl
  | arrive | inputReady | requestStop | setFilter => rfl

/-- Only Telemetry moves its stage. -/
lemma firmwareStep_telemetry {a : FirmwareAction ε} (h : a ≠ .telemetry) (f : Firmware δ) :
    (firmwareStep driver a f).telemetry = f.telemetry := by
  cases a with
  | telemetry => exact absurd rfl h
  | motion now =>
    unfold firmwareStep reportOr
    dsimp only
    split_ifs
    · exact (motionTaskStep_stages f).2
    · rfl
  | safety now =>
    unfold firmwareStep reportOr
    dsimp only
    split_ifs
    · unfold Firmware.safetyStep Firmware.beat
      split <;> try rfl
      split_ifs <;> rfl
    · rfl
  | comms now =>
    unfold firmwareStep reportOr
    dsimp only
    split_ifs
    · exact (commsStep_stages f).2
    · rfl
  | timeout =>
    unfold firmwareStep
    dsimp only
    split_ifs <;> rfl
  | arrive | inputReady | requestStop | setFilter => rfl

/-- A step of Safety lowers its rank. -/
lemma safetyRank_safety (hstop : f.pipeline.stopping = true) (now : UInt32) :
    (firmwareStep driver (.safety now) f).safetyRank ≤ f.safetyRank - 1 := by
  unfold firmwareStep reportOr
  cases hempty : (f.outbox .safety).empty with
  | false =>
    have hreport := rank_report now hempty
    have hrank : (f.report .safety now).safetyRank + 1 ≤ f.safetyRank := by
      unfold Firmware.safetyRank
      change _ + (match f.safety with
        | .heartbeat => 8
        | .evaluate => 7
        | .wait => 2
        | .checkpoint => 1
        | .parked => 0) + 1 ≤ _
      omega
    exact Nat.le_sub_of_add_le hrank
  | true =>
    have hzero := Outbox.rank_of_empty hempty
    dsimp only
    rw [if_pos rfl]
    unfold Firmware.safetyStep
    cases hstage : f.safety with
    | evaluate =>
      have hlength := safetyReports_length f.world (safetyTask f.world)
      have hrank := rank_enqueue .safety (safetyReports f.world (safetyTask f.world)) f
      unfold Firmware.safetyRank
      dsimp only
      rw [hzero, hrank, hstage]
      dsimp only
      omega
    | heartbeat =>
      unfold Firmware.safetyRank
      dsimp only
      rw [beat_outbox, hzero, hstage]
      exact Nat.le_refl _
    | checkpoint =>
      unfold Firmware.safetyRank Firmware.checkpoint
      dsimp only
      rw [hzero, hstage, hstop]
      exact Nat.le_refl _
    | wait | parked =>
      unfold Firmware.safetyRank
      dsimp only
      rw [hzero, hstage]
      exact Nat.le_refl _

omit [Rounding] in
/-- A step of Telemetry lowers its rank. -/
lemma telemetryRank_telemetry (hstop : f.pipeline.stopping = true) :
    f.telemetryStep.telemetryRank ≤ f.telemetryRank - 1 := by
  unfold Firmware.telemetryStep
  cases hstage : f.telemetry with
  | receive i =>
    dsimp only
    split_ifs with hi
    · split
      · simp only [Firmware.telemetryRank, hstage]
        omega
      · simp only [Firmware.telemetryRank, hstage]
        omega
    · simp only [Firmware.telemetryRank, hstage]
      omega
  | checkpoint =>
    simp only [Firmware.telemetryRank, hstage, hstop, if_true]
    omega
  | _ =>
    simp only [Firmware.telemetryRank, hstage]
    omega

/-- The step is one of Safety. -/
def FirmwareAction.isSafety (a : FirmwareAction ε) : Bool := a.reporter = some .safety

/-- The step is one of Telemetry. -/
def FirmwareAction.isTelemetry : FirmwareAction ε → Bool
  | .telemetry => true
  | _ => false

lemma ranks_safety (driver : InputDriver δ ε) :
    Machine.Ranks (firmwareStep driver) (fun a _ => a.isSafety) Firmware.safetyRank
      Firmware.Stopping where
  keeps a _ hf := hf.step a
  descends a f hf := by
    by_cases hother : ∀ now, a ≠ .safety now
    · have hreporter : a.reporter ≠ some .safety := by
        cases a with
        | safety now => exact absurd rfl (hother now)
        | _ => exact nofun
      have hnone : a.isSafety = false := decide_eq_false hreporter
      unfold Firmware.safetyRank
      rw [firmwareStep_outbox hreporter, firmwareStep_safety hother, hnone]
      exact Nat.le_refl _
    · push Not at hother
      obtain ⟨now, rfl⟩ := hother
      exact safetyRank_safety hf.2 now

lemma ranks_telemetry (driver : InputDriver δ ε) :
    Machine.Ranks (firmwareStep driver) (fun a _ => a.isTelemetry) Firmware.telemetryRank
      Firmware.Stopping where
  keeps a _ hf := hf.step a
  descends a f hf := by
    by_cases hother : a ≠ .telemetry
    · have hnone : a.isTelemetry = false := by
        cases a with
        | telemetry => exact absurd rfl hother
        | _ => rfl
      unfold Firmware.telemetryRank
      rw [firmwareStep_telemetry hother, hnone]
      exact Nat.le_refl _
    · push Not at hother
      subst hother
      exact telemetryRank_telemetry hf.2

/-! ### Communications -/

/-- The steps of Communications from a place to its suspension. -/
def CommsAt.rank : CommsAt → ℕ
  | .checkpoint => 1
  | .heartbeat => 3
  | .take => 2
  | .resumed _ => 1
  | .count _ => 25
  | .drain i => 4 * (drainLimit - (i + 1)) + 12
  | .failed => 7
  | .frame i _ => 4 * (drainLimit - (i + 1)) + 11
  | .pending => 4
  | .give => 3
  | .delay => 2
  | .parked => 0

/-- The steps of Communications until it is parked. -/
def Firmware.commsRank (f : Firmware δ) : ℕ := (f.outbox .comms).rank + f.pipeline.comms.rank

/-- Communications waits in `ulTaskNotifyTake`. -/
def Firmware.commsWaits (f : Firmware δ) : Bool :=
  match f.pipeline.comms with
  | .take => (f.outbox .comms).empty
  | _ => false

/-- The step is one of Communications that is not blocked, or the timeout that wakes it. -/
def FirmwareAction.movesComms (a : FirmwareAction ε) (f : Firmware δ) : Bool :=
  match a with
  | .comms _ => !(f.commsWaits && f.pipeline.notified == 0)
  | .timeout => f.commsWaits
  | _ => false

omit [Rounding] in
/-- After a read the iteration is nearer to its end. -/
lemma rank_afterRead (i : ℕ) (read : Except UartError (List UInt8)) :
    (CommsAt.afterRead i read).rank + 1 ≤ (CommsAt.drain i).rank := by
  unfold CommsAt.afterRead
  split <;> simp only [CommsAt.rank] <;> omega

omit [Rounding] in
lemma rank_nextRead (i : ℕ) (line : List UInt8) :
    (CommsAt.nextRead (i + 1)).rank + 3 ≤ (CommsAt.frame i line).rank := by
  unfold CommsAt.nextRead
  split_ifs <;> simp only [CommsAt.rank] <;> omega

omit [Rounding] in
/-- A step of Communications that is not blocked. -/
lemma rank_commsTask (driver : InputDriver δ ε) (p : Pipeline δ) (hstop : p.stopping = true)
    (hmoves : p.comms = .take → p.notified ≠ 0) :
    2 * (commsReports p).length + (commsTask driver p).comms.rank ≤ p.comms.rank - 1 := by
  have hlength := commsReports_length p
  cases hcomms : p.comms with
  | frame i line =>
    have hnext := rank_nextRead i line
    have hcomms' : (commsTask driver p).comms = .nextRead (i + 1) := by
      simp only [commsTask, hcomms]
    rw [hcomms']
    omega
  | failed =>
    simp only [commsTask, hcomms, CommsAt.rank]
    omega
  | drain i =>
    have hnext := rank_afterRead i (driver.tryReadLine p.input).1
    simp only [commsTask, commsReports, hcomms, List.length_nil]
    omega
  | take =>
    simp only [commsTask, commsReports, hcomms, List.length_nil, if_neg (hmoves hcomms),
      Pipeline.takeNotifications, CommsAt.rank]
    omega
  | pending =>
    simp only [commsTask, commsReports, hcomms, List.length_nil]
    split_ifs <;> simp [CommsAt.rank]
  | checkpoint | resumed =>
    simp only [commsTask, commsReports, hcomms, List.length_nil, hstop, if_true, CommsAt.rank]
    omega
  | count => simp [commsTask, commsReports, hcomms, CommsAt.rank, drainLimit]
  | heartbeat | give | delay | parked =>
    simp [commsTask, commsReports, hcomms, CommsAt.rank]

omit [Rounding] in
/-- The other steps of the pipeline leave Communications where it is. -/
lemma motionTaskCommands_comms (p : Pipeline δ) : (motionTaskCommands p).comms = p.comms := by
  unfold motionTaskCommands
  split
  · rfl
  · split_ifs
    · split <;> rfl
    · rfl
  · rfl
  · rfl

/-- The others leave the rank of Communications as it is. -/
lemma commsRank_other {a : FirmwareAction ε} (hcomms : ∀ now, a ≠ .comms now) (ha : a ≠ .timeout)
    (f : Firmware δ) : (firmwareStep driver a f).commsRank = f.commsRank := by
  have hreporter : a.reporter ≠ some .comms := by
    cases a with
    | comms now => exact absurd rfl (hcomms now)
    | _ => exact nofun
  have hplace : (firmwareStep driver a f).pipeline.comms = f.pipeline.comms := by
    rw [pipeline_step]
    refine Machine.run_invariant (P := fun (b : PipelineAction ε) _ => b ≠ .comms ∧ b ≠ .timeout)
      (I := fun p : Pipeline δ => p.comms = f.pipeline.comms) (fun b p hp hb => ?_) rfl
      (Machine.along_of_forall_mem fun b hb => ?_)
    · cases b with
      | comms => exact absurd rfl hb.1
      | timeout => exact absurd rfl hb.2
      | arrive e => exact (pipelineStep_arrive_comms driver p e).1.trans hp
      | motion => exact (motionTaskCommands_comms p).trans hp
      | inputReady | requestStop => exact hp
    · cases a with
      | comms now => exact absurd rfl (hcomms now)
      | timeout => exact absurd rfl ha
      | motion now =>
        unfold pipelineLabels at hb
        dsimp only at hb
        split_ifs at hb
        · rw [mem_motionPipeline hb]
          exact ⟨nofun, nofun⟩
        · exact absurd hb nofun
      | safety | telemetry | setFilter => exact absurd hb nofun
      | arrive | inputReady | requestStop =>
        rw [List.mem_singleton.mp hb]
        exact ⟨nofun, nofun⟩
  unfold Firmware.commsRank
  rw [firmwareStep_outbox hreporter, hplace]

/-- The timeout wakes Communications. -/
lemma commsRank_timeout (f : Firmware δ) :
    (firmwareStep driver .timeout f).commsRank ≤ f.commsRank - f.commsWaits.toNat := by
  unfold firmwareStep Firmware.commsWaits
  cases hempty : (f.outbox .comms).empty with
  | false =>
    cases f.pipeline.comms <;> exact Nat.le_refl _
  | true =>
    have hzero := Outbox.rank_of_empty hempty
    dsimp only
    rw [if_pos rfl]
    unfold Firmware.commsRank
    change (f.outbox .comms).rank + (commsTimeout f.pipeline).comms.rank ≤ _
    unfold commsTimeout
    rw [hzero]
    cases hcomms : f.pipeline.comms <;> simp [hcomms, CommsAt.rank, Pipeline.takeNotifications]

/-- A step of Communications lowers its rank, unless it is blocked. -/
lemma commsRank_comms (hstop : f.pipeline.stopping = true) (now : UInt32) :
    (firmwareStep driver (.comms now) f).commsRank ≤
      f.commsRank - (!(f.commsWaits && f.pipeline.notified == 0)).toNat := by
  unfold firmwareStep reportOr
  cases hempty : (f.outbox .comms).empty with
  | false =>
    have hreport := rank_report now hempty
    have hrank : (f.report .comms now).commsRank + 1 ≤ f.commsRank := by
      unfold Firmware.commsRank
      change _ + f.pipeline.comms.rank + 1 ≤ _
      omega
    have hbit := Bool.toNat_le (!(f.commsWaits && f.pipeline.notified == 0))
    change (f.report .comms now).commsRank ≤ _
    omega
  | true =>
    have hzero := Outbox.rank_of_empty hempty
    have hplace : (f.commsStep driver).pipeline = commsTask driver f.pipeline := rfl
    have houtbox : ((f.commsStep driver).outbox .comms).rank =
        2 * (commsReports f.pipeline).length := by
      unfold Firmware.commsStep
      cases f.pipeline.comms with
      | heartbeat => exact rank_enqueue .comms (commsReports f.pipeline) (f.beat .comms)
      | _ => exact rank_enqueue .comms (commsReports f.pipeline) f
    dsimp only
    rw [if_pos rfl]
    unfold Firmware.commsRank
    rw [hplace, houtbox, hzero]
    by_cases hblocked : f.pipeline.comms = .take ∧ f.pipeline.notified = 0
    · have hwaits : f.commsWaits = true := by
        unfold Firmware.commsWaits
        rw [hblocked.1]
        exact hempty
      rw [hwaits, hblocked.2]
      have hsame : commsTask driver f.pipeline = f.pipeline := by
        simp only [commsTask, hblocked.1, hblocked.2, if_true]
      have hnone : commsReports f.pipeline = [] := by
        simp only [commsReports, hblocked.1]
      rw [hsame, hnone]
      exact Nat.le_refl _
    · have hmoves := rank_commsTask driver f.pipeline hstop
        fun htake hnone => hblocked ⟨htake, hnone⟩
      have hprogress : (!(f.commsWaits && f.pipeline.notified == 0)) = true := by
        unfold Firmware.commsWaits
        cases hcomms : f.pipeline.comms with
        | take =>
          have hne : f.pipeline.notified ≠ 0 := fun hnone => hblocked ⟨hcomms, hnone⟩
          simp [hne]
        | _ => rfl
      rw [hprogress, Bool.toNat_true]
      omega

lemma ranks_comms (driver : InputDriver δ ε) :
    Machine.Ranks (firmwareStep driver) FirmwareAction.movesComms Firmware.commsRank
      Firmware.Stopping where
  keeps a _ hf := hf.step a
  descends a f hf := by
    by_cases hother : (∀ now, a ≠ .comms now) ∧ a ≠ .timeout
    · have hnone : a.movesComms f = false := by
        cases a with
        | comms now => exact absurd rfl (hother.1 now)
        | timeout => exact absurd rfl hother.2
        | _ => rfl
      rw [commsRank_other hother.1 hother.2, hnone]
      exact Nat.le_refl _
    · cases a with
      | comms now => exact commsRank_comms hf.2 now
      | timeout => exact commsRank_timeout f
      | _ => exact absurd ⟨nofun, nofun⟩ hother

/-! ### The ranks of a run -/

/-- No task has more to report than four reports. -/
def Firmware.Short (f : Firmware δ) : Prop := ∀ who, (f.outbox who).rank ≤ 8

omit [Rounding] in
lemma Firmware.Short.report (h : f.Short) (who : Reporter) (now : UInt32) :
    (f.report who now).Short := by
  intro other
  by_cases hother : other = who
  · subst hother
    cases hempty : (f.outbox other).empty with
    | false =>
      have hreport := rank_report now hempty
      have hold := h other
      omega
    | true =>
      have hsame : (sendRecord now f.diagnostics (f.outbox other)).2 = f.outbox other := by
        unfold Outbox.empty at hempty
        rw [Bool.and_eq_true, List.isEmpty_iff, Bool.not_eq_true'] at hempty
        unfold sendRecord
        rw [hempty.1, hempty.2]
        rfl
      unfold Firmware.report
      dsimp only
      rw [Function.update_self, hsame]
      exact h other
  · rw [report_outbox_of_ne hother]
    exact h other

omit [Rounding] in
lemma Firmware.Short.congr {g : Firmware δ} (h : f.Short) (houtbox : g.outbox = f.outbox) :
    g.Short := by
  intro who
  rw [houtbox]
  exact h who

omit [Rounding] in
/-- A task gets at most four reports. -/
lemma Enqueues.short {who : Reporter} {P : List Report → Prop} {g : Firmware δ}
    (hg : Enqueues who P f g) (h : f.Short) (hP : ∀ reports, P reports → reports.length ≤ 4) :
    g.Short := by
  rcases hg.outbox with hsame | ⟨reports, hreports, houtbox⟩
  · exact h.congr hsame
  intro other
  rw [houtbox]
  by_cases hother : other = who
  · subst hother
    have hlength := hP reports hreports
    rw [rank_enqueue]
    omega
  · rw [enqueue_outbox_of_ne hother]
    exact h other

/-- **Step lemma.**  No step leaves a task with more than four reports. -/
lemma Firmware.Short.step (h : f.Short) (a : FirmwareAction ε) :
    (firmwareStep driver a f).Short := by
  have hreport : ∀ {who now} {next : Firmware δ → Firmware δ}, (next f).Short →
      (reportOr who now next f).Short := by
    intro who now next hnext
    unfold reportOr
    split_ifs
    · exact hnext
    · exact h.report who now
  cases a with
  | motion now =>
    refine hreport ((enqueues_motionTaskStep f).short h ?_)
    rintro reports ⟨received, rfl⟩
    exact motionReports_length f.world (motionStep f.world received) received
  | safety now =>
    refine hreport ((enqueues_safetyStep f).short h ?_)
    rintro reports rfl
    have hlength := safetyReports_length f.world (safetyTask f.world)
    omega
  | comms now =>
    refine hreport ((enqueues_commsStep f).short h ?_)
    rintro reports rfl
    have hlength := commsReports_length f.pipeline
    omega
  | telemetry => exact h.congr (telemetryStep_outbox f)
  | timeout =>
    unfold firmwareStep
    dsimp only
    split_ifs <;> exact h.congr rfl
  | arrive | inputReady | requestStop | setFilter => exact h.congr rfl

lemma short_firmware (driver : InputDriver δ ε) (env : Environment) (input : δ)
    (as : List (FirmwareAction ε)) : (firmware driver env input as).Short :=
  Machine.run_invariant_of_forall (fun a _ hf => hf.step a) fun _ => Nat.zero_le _

omit [Rounding] in
/-- The place of Motion in a release is one that the command limit allows. -/
lemma phase_rank_le (p : Phase) : p.rank ≤ 11 * sectionSteps := by
  cases p with
  | receive i | execute i | report i =>
    have hi : commandLimit - i ≤ 2 := Nat.sub_le _ _
    simp only [Phase.rank, sectionSteps]
    omega
  | _ => simp [Phase.rank, sectionSteps]

omit [Rounding] in
lemma motionRank_bound (h : f.Short) : f.motionRank ≤ 122 := by
  have hshort := h .motion
  have hphase := phase_rank_le f.world.task.phase
  have hle := motionRank_le f
  unfold sectionSteps at hphase
  cases hstage : f.motion <;> rw [hstage] at hle <;> simp only [MotionStage.rank] at hle <;> omega

omit [Rounding] in
lemma safetyRank_bound (h : f.Short) : f.safetyRank ≤ 16 := by
  have hshort := h .safety
  unfold Firmware.safetyRank
  split <;> omega

omit [Rounding] in
lemma telemetryRank_bound (f : Firmware δ) : f.telemetryRank ≤ 69 := by
  unfold Firmware.telemetryRank diagnosticCapacity
  split <;> omega

omit [Rounding] in
lemma commsRank_bound (h : f.Short) : f.commsRank ≤ 33 := by
  have hshort := h .comms
  unfold Firmware.commsRank
  cases f.pipeline.comms <;> simp only [CommsAt.rank, drainLimit] <;> omega

end MotionFirmware
