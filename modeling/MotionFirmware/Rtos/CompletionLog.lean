import MotionFirmware.Rtos.StateLog

/-!
# The log of completions

`HOMING COMPLETE` and `STATE MOVING -> IDLE` are reported where a seek or a move ends in `IDLE`.  A
completion is one way to get there; the other is a `RESET` that is accepted before Motion has
adopted the latch, which reports a completion that has not happened.  `MOTION COMPLETE` is reported
for moves that have completed, and only for them.
-/

namespace MotionFirmware

/-- The state that a completed `HOME`, or a completed move, leaves. -/
def completionState (home : Bool) : AppState := if home then .homing else .moving

/-- What `transition` reports when that state is left for `IDLE`. -/
def completionText (home : Bool) : CString :=
  if home then cString "HOMING COMPLETE reference=0 applied_pwm=0"
  else cString "STATE MOVING -> IDLE"

/-- What Motion reports of a completed move. -/
def motionCompleteText : CString := cString "MOTION COMPLETE output=zero"

/-- The counter of the completed homings, or of the completed moves. -/
def Tally.completions (home : Bool) (t : Tally) : UInt32 :=
  if home then t.homed else t.completedMoves

section Texts

variable {s t : AppState} {home : Bool} {message : CString} {log : List Report}

/-- A completion is reported of its own edge only. -/
lemma count_transition (home : Bool) (s t : AppState) :
    (transition s t).count (completionText home) =
      if s = completionState home ∧ t = .idle then 1 else 0 := by
  cases home <;> cases s <;> cases t <;> decide +kernel

lemma isStateText_completionText (home : Bool) : isStateText (completionText home) = true := by
  cases home <;> decide +kernel

/-- A text of the diagram does not occur among reports that say nothing of the state. -/
lemma count_silent (h : isStateText message = true) (hlog : log.all Silent = true) :
    log.count (.text message) = 0 := by
  refine List.count_eq_zero_of_not_mem fun hmem => ?_
  have hsilent := List.all_eq_true.mp hlog _ hmem
  simp [Silent, h] at hsilent

lemma count_texts (l : List CString) :
    (l.map Report.text).count (.text message) = l.count message :=
  List.count_map_of_injective l Report.text (fun _ _ => Report.text.inj) message

end Texts

variable [Rounding] {w : World} {a : Action} {home : Bool} {start : UInt32}

/-- The step completes a `HOME`, or a move. -/
def Completion (home : Bool) (a : Action) (w : World) : Prop :=
  w.recordState = completionState home ∧ (step a w).recordState = .idle ∧ ¬ AcceptsReset a w

instance (home : Bool) (a : Action) (w : World) : Decidable (Completion home a w) :=
  inferInstanceAs (Decidable (_ ∧ _ ∧ ¬ _))

/-- The step accepts a `RESET` while Motion still seeks, or still moves. -/
def ResetsRunning (home : Bool) (a : Action) (w : World) : Prop :=
  AcceptsReset a w ∧ w.motion.data.state = completionState home

instance (home : Bool) (a : Action) (w : World) : Decidable (ResetsRunning home a w) :=
  inferInstanceAs (Decidable (_ ∧ _))

/-! ### What the counters gain -/

/-- An accepted `RESET` counts no completion. -/
lemma completions_of_acceptsReset (h : AcceptsReset a w) :
    (step a w).tally.completions home = w.tally.completions home := by
  obtain ⟨s, phase, -, heq⟩ := step_of_acceptsReset h
  have hmotion := runtimeSafetyEvaluate_motion w
  rw [heq]
  unfold Tally.completions World.tally
  rw [← hmotion]
  rfl

/-- The failing update of a seek counts no completion. -/
lemma completions_of_failsSeek (hw : w.Accountable start) (h : FailsSeek a w) :
    (step a w).tally.completions home = w.tally.completions home := by
  obtain ⟨hhome, hlatched⟩ := latched_of_failsSeek h
  obtain ⟨⟨r, rfl, hphase⟩, -⟩ := h
  have hstep : step (.motion r) w = taskUpdate w := by simp only [step, motionStep, hphase]
  have htally : (step (.motion r) w).tally = (controlSection w).2.tally := by
    rw [hstep]
    rfl
  have hafter : (step (.motion r) w).recordState = (controlSection w).2.motion.data.state := by
    rw [recordState_motionStep (by rw [hphase]; simp), hstep]
    rfl
  rw [htally]
  cases section_outcome hw.regular (hw.updatable hphase) with
  | keeps _ hcount => rw [hcount]
  | rests _ _ hcount => rw [hcount]
  | aborts _ _ hcount => rw [hcount]; rfl
  | completes _ hidle =>
    rw [hafter, hidle] at hlatched
    exact absurd hlatched (by decide)
  | coasts _ _ hcount => rw [hcount]
  | fails _ _ hcount => rw [hcount]; rfl

/-- **Step lemma.**  The counter of completions gains one with each completion, and nothing
otherwise. -/
theorem completions_step (hw : w.Accountable start) (a : Action) :
    (step a w).tally.completions home =
      w.tally.completions home + if Completion home a w then 1 else 0 := by
  by_cases hreset : AcceptsReset a w
  · rw [if_neg fun h => h.2.2 hreset, completions_of_acceptsReset hreset, UInt32.add_zero]
  have hne : ∀ {s t : AppState}, w.recordState = s → (step a w).recordState = t →
      (s ≠ completionState home ∨ t ≠ .idle) → ¬ Completion home a w := by
    rintro s t hs ht hst ⟨hbefore, hafter, -⟩
    rcases hst with h | h
    · exact h (hs.symm.trans hbefore)
    · exact h (ht.symm.trans hafter)
  by_cases hmotion : AcceptsMotion a w
  · obtain ⟨hidle, hnext⟩ := starts_of_acceptsMotion hw hmotion
    rw [if_neg (hne hidle rfl (Or.inl (by cases home <;> decide))), UInt32.add_zero]
    rcases hnext with ⟨-, htally⟩ | ⟨-, htally⟩ <;> rw [htally]
    rfl
  cases stepOutcome hw hmotion with
  | keeps hstate htally =>
    have hrest : ¬ Completion home a w := by
      rintro ⟨hbefore, hafter, -⟩
      rw [hstate, hbefore] at hafter
      revert hafter
      cases home <;> decide
    rw [if_neg hrest, htally, UInt32.add_zero]
  | rests hrest hrest' htally =>
    have hcompletion : ¬ Completion home a w := by
      rintro ⟨hbefore, -⟩
      rw [hbefore] at hrest
      revert hrest
      cases home <;> decide
    rw [if_neg hcompletion, htally, UInt32.add_zero]
  | aborts _ hlatched htally =>
    have hcompletion : ¬ Completion home a w := by
      rintro ⟨-, hafter, -⟩
      rw [hafter] at hlatched
      exact absurd hlatched (by decide)
    rw [if_neg hcompletion, htally, UInt32.add_zero]
    rfl
  | completes hbefore hidle htally =>
    have hiff : Completion home a w ↔ w.recordState = completionState home :=
      ⟨fun h => h.1, fun h => ⟨h, hidle, hreset⟩⟩
    rw [htally]
    simp only [hiff]
    rcases hbefore with h | h <;> rw [h] <;> cases home <;> simp [Tally.completions, Tally.complete,
      completionState]
  | coasts hcoasts htally =>
    obtain ⟨hstopping, hidle⟩ := hcoasts.states
    rw [if_neg (hne hstopping hidle (Or.inl (by cases home <;> decide))), htally, UInt32.add_zero]
  | cancels hcancels htally =>
    obtain ⟨hhome, hstopping⟩ := hcancels.states hw
    rw [if_neg (hne hhome hstopping (Or.inr nofun)), htally, UInt32.add_zero]
    rfl
  | halts hmoving hstopping htally =>
    rw [if_neg (hne hmoving hstopping (Or.inr nofun)), htally, UInt32.add_zero]
  | resets haccepts => exact absurd haccepts hreset
  | fails hfails =>
    obtain ⟨hhome, hlatched⟩ := latched_of_failsSeek hfails
    have hcompletion : ¬ Completion home a w := by
      rintro ⟨-, hafter, -⟩
      rw [hafter] at hlatched
      exact absurd hlatched (by decide)
    rw [if_neg hcompletion, completions_of_failsSeek hw hfails, UInt32.add_zero]

/-! ### Where a completion happens -/

/-- A command that is no accepted `RESET` ends no motion in `IDLE`. -/
lemma idle_of_command {command : MotionCommand} (hs : w.safety.Settled)
    (hreset : (runtimeSafetyCommand w command).1 = .accepted → command.type ≠ .reset)
    (hidle : (runtimeSafetyCommand w command).2.motion.data.state = .idle) :
    w.motion.data.state = .idle := by
  cases command_outcome hs command with
  | keeps hstate => exact hstate.symm.trans hidle
  | latches hlatched =>
    rw [hidle] at hlatched
    exact absurd hlatched (by decide)
  | resets htype haccepted => exact absurd htype (hreset haccepted)
  | cancels _ hstopping => exact absurd (hstopping.symm.trans hidle) nofun
  | halts _ _ hstopping => exact absurd (hstopping.symm.trans hidle) nofun
  | starts _ _ hbefore => exact hbefore

omit [Rounding] in
/-- The section after the sample adopts a latch, or leaves the state as it is. -/
lemma adopted_taskReconcile (w : World) :
    (taskReconcile w).Adopted ∨ (taskReconcile w).motion.data.state = w.recordState := by
  unfold taskReconcile
  split_ifs with hsampled
  · by_cases hidle : w.safety.state = .idle
    · have hrecord : w.recordState = w.motion.data.state :=
        if_neg (by rw [hsampled]; exact fun h => absurd h.2 nofun)
      rw [runtimeSafetySync_of_idle hidle, hrecord]
      exact Or.inr rfl
    · exact Or.inl ((adopted_sync hidle).goto _)
  · exact Or.inl (World.Adopted.goto (adopted_raiseInternal _ _) _)

/-- A completion happens in the control section of a release. -/
lemma updates_of_completion (hw : w.Legible start) (hearly : w.task.phase.early = false)
    (h : Completion home a w) : Updates a w := by
  obtain ⟨hbefore, hidle, hreset⟩ := h
  have hne : (step a w).recordState ≠ w.recordState := by
    rw [hbefore, hidle]
    cases home <;> simp [completionState]
  by_cases hother : ∀ r, a ≠ .motion r
  · obtain ⟨htask, hmotion⟩ := step_other (w := w) hother
    refine absurd ?_ hne
    unfold World.recordState
    rw [htask, hmotion]
  push Not at hother
  obtain ⟨r, rfl⟩ := hother
  have hafter := recordState_motionStep (w := w) (r := r)
  cases hphase : w.task.phase with
  | update => exact ⟨r, rfl, hphase⟩
  | reconcile =>
    have hstep : step (.motion r) w = taskReconcile w := by simp only [step, motionStep, hphase]
    rw [hafter (by rw [hphase]; simp), hstep] at hidle hne
    rcases adopted_taskReconcile w with hadopted | hsame
    · exact absurd (hadopted.2.symm.trans hidle) hadopted.1
    · exact absurd hsame hne
  | execute i command =>
    have hrecord : w.recordState = w.motion.data.state :=
      recordState_of_ne (by rw [hphase]; simp)
    rw [hafter (by rw [hphase]; simp)] at hidle hne
    by_cases happ : w.task.app = .idle
    · have hstep : step (.motion r) w = (runtimeSafetyCommand w command).2.goto
          (.report i (runtimeSafetyCommand w command).1) := by
        simp only [step, motionStep, hphase, taskExecute, happ, if_true]
      have hrefused : (runtimeSafetyCommand w command).1 = .accepted → command.type ≠ .reset :=
        fun haccepted htype =>
          hreset ⟨command, ⟨r, i, rfl, hphase, happ⟩, by simp [htype], haccepted⟩
      rw [hstep, goto_motion] at hidle
      have hrest := idle_of_command hw.accountable.regular.settled hrefused hidle
      rw [← hrecord, hbefore] at hrest
      exact absurd hrest (by cases home <;> simp [completionState])
    · have hstep : step (.motion r) w = w.goto (.report i .invalidState) := by
        simp only [step, motionStep, hphase, taskExecute, happ, if_false]
      rw [hstep, hrecord] at hne
      exact absurd rfl hne
  | _ =>
    exact absurd (recordState_of_quiet hw.accountable hearly (by rw [hphase]; rfl)) hne

/-! ### What the log gains -/

/-- The edge of a completion is taken by a completion, or by a `RESET`. -/
lemma edge_iff :
    (w.recordState = completionState home ∧ (step a w).recordState = .idle) ↔
      Completion home a w ∨ ResetsRunning home a w := by
  constructor
  · rintro ⟨hbefore, hidle⟩
    by_cases hreset : AcceptsReset a w
    · refine Or.inr ⟨hreset, ?_⟩
      obtain ⟨command, ⟨r, i, rfl, hphase, -⟩, -⟩ := hreset
      rwa [← recordState_of_ne (by rw [hphase]; exact nofun)]
    · exact Or.inl ⟨hbefore, hidle, hreset⟩
  · rintro (h | ⟨hreset, hstate⟩)
    · exact ⟨h.1, h.2.1⟩
    · have hidle := idle_of_acceptsReset hreset
      obtain ⟨command, ⟨r, i, rfl, hphase, -⟩, -⟩ := hreset
      exact ⟨(recordState_of_ne (by rw [hphase]; exact nofun)).trans hstate,
        (recordState_motionStep (by rw [hphase]; exact nofun)).trans hidle.2⟩

/-- **Step lemma.**  The log gains the text with each completion and with each `RESET` of a running
motion. -/
lemma count_motionReports {r : Option MotionCommand} (hw : w.Legible start)
    (hearly : w.task.phase.early = false) :
    (motionReports w (motionStep w r) r).count (.text (completionText home)) =
      (if Completion home (.motion r) w then 1 else 0) +
        if ResetsRunning home (.motion r) w then 1 else 0 := by
  obtain ⟨pre, post, hreports, hpre, hpost⟩ := motionReports_split w (motionStep w r) r
  have htext := isStateText_completionText home
  rw [hreports, List.count_append, List.count_append, count_silent htext hpre,
    count_silent htext hpost, count_texts, stateReports_eq hw hearly, count_transition]
  simp only [edge_iff, Nat.zero_add, Nat.add_zero]
  by_cases hreset : ResetsRunning home (.motion r) w
  · have hcompletion : ¬ Completion home (.motion r) w := fun h => h.2.2 hreset.1
    simp [hreset, hcompletion]
  · simp [hreset]

omit [Rounding] in
lemma count_transition_motionComplete (s t : AppState) :
    (transition s t).count motionCompleteText = 0 := by
  cases s <;> cases t <;> decide +kernel

/-- Outside of the control section no completed move is reported. -/
lemma count_motionComplete_of_ne {v : World} {r : Option MotionCommand}
    (hphase : w.task.phase ≠ .update) :
    (motionReports w v r).count (.text motionCompleteText) = 0 := by
  have htexts : ∀ s t, ((transition s t).map Report.text).count (.text motionCompleteText) = 0 := by
    intro s t
    rw [count_texts, count_transition_motionComplete]
  unfold motionReports stateReports
  cases h : w.task.phase with
  | create =>
    dsimp only
    decide +kernel
  | configure =>
    dsimp only
    split_ifs <;> decide +kernel
  | begin =>
    dsimp only
    cases w.task.app <;> decide +kernel
  | receive i =>
    cases r with
    | none => rfl
    | some command =>
      dsimp only [receiveReports]
      split_ifs
      · exact List.count_eq_zero_of_not_mem (by simp)
      · rfl
  | reconcile => exact htexts _ _
  | execute i command =>
    rw [List.count_append, htexts, Nat.zero_add]
    split
    · exact List.count_eq_zero_of_not_mem (by simp)
    · rfl
  | update => exact absurd h hphase
  | anchor | clock | sample | report => rfl

/-- **Step lemma.**  `MOTION COMPLETE` is reported of every completed move. -/
lemma count_motionComplete {r : Option MotionCommand} (hw : w.Legible start)
    (hearly : w.task.phase.early = false) :
    (motionReports w (motionStep w r) r).count (.text motionCompleteText) =
      if Completion false (.motion r) w then 1 else 0 := by
  by_cases hphase : w.task.phase = .update
  · have hgain : (motionStep w r).motion.data.completedMoves =
        w.motion.data.completedMoves + if Completion false (.motion r) w then 1 else 0 :=
      @completions_step _ _ false _ hw.accountable (.motion r)
    have hfailed : ((if (controlSection w).1 then []
        else [Report.text (cString "CONTROL INTERNAL fault output=zero")]) :
        List Report).count (.text motionCompleteText) = 0 := by
      split_ifs <;> decide +kernel
    have hreports : motionReports w (motionStep w r) r =
        (if (controlSection w).1 then []
          else [.text (cString "CONTROL INTERNAL fault output=zero")]) ++
          (stateReports w (motionStep w r)).map .text ++
          if (motionStep w r).motion.data.completedMoves ≠ w.motion.data.completedMoves then
            [.text motionCompleteText]
          else [] := by
      simp only [motionReports, hphase]
      rfl
    rw [hreports, List.count_append, List.count_append, hfailed, count_texts,
      stateReports_eq hw hearly, count_transition_motionComplete, hgain]
    by_cases hcompletion : Completion false (.motion r) w
    · simp [hcompletion]
    · simp [hcompletion]
  · rw [count_motionComplete_of_ne hphase, if_neg]
    intro hcompletion
    obtain ⟨r', -, hupdate⟩ := updates_of_completion hw hearly hcompletion
    exact hphase hupdate

/-! ### Runs -/

/-- Before `motion_init` nothing completes, and no `RESET` is accepted. -/
lemma not_edge_of_early (hw : w.Accountable start) (hearly : w.task.phase.early = true) :
    ¬ Completion home a w ∧ ¬ ResetsRunning home a w := by
  refine ⟨?_, ?_⟩
  · rintro ⟨hbefore, -⟩
    have hreconcile : w.task.phase ≠ .reconcile := by
      intro hphase
      rw [hphase] at hearly
      exact absurd hearly nofun
    rw [recordState_of_ne hreconcile, hw.fresh hearly] at hbefore
    exact absurd hbefore (by cases home <;> exact nofun)
  · rintro ⟨⟨command, ⟨r, i, -, hphase, -⟩, -⟩, -⟩
    rw [hphase] at hearly
    exact absurd hearly nofun

/-- **Step lemma.**  What the log gains of the texts of completions, with any action. -/
theorem count_observeReports (hw : w.Legible start) (a : Action) (log : List Report) :
    (observeReports a w log).count (.text (completionText home)) =
      log.count (.text (completionText home)) +
        ((if Completion home a w then 1 else 0) + if ResetsRunning home a w then 1 else 0) ∧
    (observeReports a w log).count (.text motionCompleteText) =
      log.count (.text motionCompleteText) + if Completion false a w then 1 else 0 := by
  by_cases hother : ∀ r, a ≠ .motion r
  · obtain ⟨htask, hmotion⟩ := step_other (w := w) hother
    have hlog : observeReports a w log = log := by
      cases a with
      | motion r => exact absurd rfl (hother r)
      | _ => rfl
    have hreset : ∀ home, ¬ ResetsRunning home a w := by
      rintro home ⟨⟨command, ⟨r, i, ha, -⟩, -⟩, -⟩
      exact hother r ha
    have hcompletion : ∀ home, ¬ Completion home a w := by
      intro home h
      have hsame : (step a w).recordState = w.recordState := by
        unfold World.recordState
        rw [htask, hmotion]
      have hidle := h.2.1
      rw [hsame, h.1] at hidle
      exact absurd hidle (by cases home <;> exact nofun)
    simp [hlog, hreset, hcompletion]
  push Not at hother
  obtain ⟨r, rfl⟩ := hother
  simp only [observeReports, List.count_append, Nat.add_left_cancel_iff]
  cases hearly : w.task.phase.early with
  | false => exact ⟨count_motionReports hw hearly, count_motionComplete hw hearly⟩
  | true =>
    have hedge : ∀ home, ¬ Completion home (.motion r) w ∧ ¬ ResetsRunning home (.motion r) w :=
      fun home => not_edge_of_early hw.accountable hearly
    have hupdate : w.task.phase ≠ .update := by
      intro hphase
      rw [hphase] at hearly
      exact absurd hearly nofun
    rw [count_silent (isStateText_completionText home) (silent_motionReports hearly),
      count_motionComplete_of_ne hupdate]
    simp [hedge]

/-- The `RESET`s of a run that were accepted while Motion still seeked, or still moved. -/
def resetsRunning (env : Environment) (home : Bool) (as : List Action) : ℕ :=
  (Machine.outputs step (fun a w => decide (ResetsRunning home a w))
    (runtimeInit env) as).count true

/-- **The log of completions.**  In every run `HOMING COMPLETE` has been reported once for each
completed homing and once more for each `RESET` that was accepted in `HOMING`,
`STATE MOVING -> IDLE` likewise for moves, and `MOTION COMPLETE` once for each completed move. -/
theorem motionLog_completions (env : Environment) (as : List Action) (home : Bool) :
    UInt32.ofNat ((motionLog env as).count (.text (completionText home))) =
      (runtime env as).tally.completions home + UInt32.ofNat (resetsRunning env home as) ∧
    UInt32.ofNat ((motionLog env as).count (.text motionCompleteText)) =
      (runtime env as).motion.data.completedMoves := by
  induction as using List.reverseRecOn with
  | nil => cases home <;> exact ⟨rfl, rfl⟩
  | append_singleton as a ih =>
    have hlog : motionLog env (as ++ [a]) = observeReports a (runtime env as) (motionLog env as) :=
      Machine.watch_append
    have hrun : runtime env (as ++ [a]) = step a (runtime env as) := Machine.run_append
    have hlegible := legible_runtime env as
    have hgain : ∀ home, (step a (runtime env as)).tally.completions home =
        (runtime env as).tally.completions home +
          if Completion home a (runtime env as) then 1 else 0 :=
      fun home => completions_step hlegible.accountable a
    have hmoves : (step a (runtime env as)).motion.data.completedMoves =
        (runtime env as).motion.data.completedMoves +
          if Completion false a (runtime env as) then 1 else 0 := hgain false
    have hresets : resetsRunning env home (as ++ [a]) = resetsRunning env home as +
        if ResetsRunning home a (runtime env as) then 1 else 0 := by
      unfold resetsRunning
      rw [Machine.outputs_append, List.count_append]
      change _ + [decide (ResetsRunning home a (runtime env as))].count true = _
      by_cases hreset : ResetsRunning home a (runtime env as) <;> simp [hreset]
    obtain ⟨hedges, hcomplete⟩ := @count_observeReports _ _ home _ hlegible a (motionLog env as)
    rw [hlog, hrun, hedges, hcomplete, hgain, hmoves, hresets]
    refine ⟨?_, ?_⟩
    · have hone : ∀ p : Prop, ∀ [Decidable p],
          UInt32.ofNat (if p then 1 else 0) = if p then 1 else 0 := by
        intro p _
        split_ifs <;> rfl
      rw [UInt32.ofNat_add, UInt32.ofNat_add, UInt32.ofNat_add, ih.1, hone, hone]
      ac_rfl
    · rw [UInt32.ofNat_add, ih.2]
      split_ifs <;> rfl

end MotionFirmware
