import MotionFirmware.Rtos.Accounts
import MotionFirmware.Rtos.Answers
import MotionFirmware.Rtos.CompletionLog

/-!
# The counters of Motion

Motion counts the commands that it receives, the results of those that it executes and the releases
whose control update fails, and it reports each of them.  The counters and the reports agree:
reading the log of Motion tells what the counters show, but for the one command that is being
executed and the one result that is reported and not counted yet.
-/

namespace MotionFirmware

/-- The result that a report of Motion gives. -/
def resultOf : Report → Option MotionResult
  | .motion _ result => some result
  | _ => none

/-- The result that Motion has reported and not counted. -/
def Phase.uncounted : Phase → List MotionResult
  | .report _ result => [result]
  | _ => []

/-- What Motion reports of a failed control update. -/
def controlErrorText : CString := cString "CONTROL INTERNAL fault output=zero"

/-- The results among reports, accepted or not. -/
def resultCount (accepted : Bool) (log : List MotionResult) : UInt32 :=
  UInt32.ofNat (log.countP fun result => decide (result = .accepted) == accepted)

/-- The counter of the results that are accepted, or of those that are not. -/
def Accounts.results (a : Accounts) (accepted : Bool) : UInt32 :=
  if accepted then a.motionAccepted else a.motionRejected

/-- The commands of a type in a list. -/
def typeCount (type : CommandType) (commands : List MotionCommand) : UInt32 :=
  UInt32.ofNat (commands.countP fun command => decide (command.type = type))

lemma resultCount_append (accepted : Bool) (l l' : List MotionResult) :
    resultCount accepted (l ++ l') = resultCount accepted l + resultCount accepted l' := by
  rw [resultCount, List.countP_append, UInt32.ofNat_add]
  rfl

lemma typeCount_append (type : CommandType) (l l' : List MotionCommand) :
    typeCount type (l ++ l') = typeCount type l + typeCount type l' := by
  rw [typeCount, List.countP_append, UInt32.ofNat_add]
  rfl

/-! ### Results -/

/-- Texts give no result. -/
lemma resultOf_texts (texts : List CString) : (texts.map Report.text).filterMap resultOf = [] := by
  induction texts with
  | nil => rfl
  | cons text texts ih => exact ih

section Steps

variable [Rounding] {w v : World} {r : Option MotionCommand}

/-- A section that does not execute a command gives no result. -/
lemma results_of_ne (hexecute : ∀ i command, w.task.phase ≠ .execute i command) :
    (motionReports w v r).filterMap resultOf = [] := by
  unfold motionReports
  cases hphase : w.task.phase with
  | receive i =>
    cases r with
    | none => rfl
    | some command =>
      dsimp only [receiveReports]
      split_ifs <;> rfl
  | execute i command => exact absurd hphase (hexecute i command)
  | configure =>
    dsimp only
    split_ifs <;> rfl
  | begin => exact resultOf_texts _
  | reconcile => exact resultOf_texts _
  | update =>
    rw [List.filterMap_append, List.filterMap_append, resultOf_texts]
    split_ifs <;> rfl
  | create | anchor | clock | sample | report => rfl

/-- Only an execution leads to the counting of a result. -/
lemma uncounted_of_ne (hexecute : ∀ i command, w.task.phase ≠ .execute i command) :
    (motionStep w r).task.phase.uncounted = [] := by
  have hfollows := follows_motionStep w r
  generalize (motionStep w r).task.phase = next at hfollows ⊢
  generalize w.task.phase = phase at hfollows hexecute
  cases hfollows with
  | execute i command result => exact absurd rfl (hexecute i command)
  | skip h => rcases h with rfl | rfl <;> rfl
  | report h => rcases h with rfl | rfl <;> rfl
  | _ => rfl

/-- **Step lemma.**  A section counts what was reported and not counted, and leaves uncounted what
it reports itself. -/
lemma results_motionStep (w : World) (r : Option MotionCommand) (accepted : Bool) :
    (motionStep w r).accounts.results accepted =
        w.accounts.results accepted + resultCount accepted w.task.phase.uncounted ∧
      (motionReports w (motionStep w r) r).filterMap resultOf =
        (motionStep w r).task.phase.uncounted := by
  rw [accounts_motionStep]
  cases hphase : w.task.phase with
  | execute i command =>
    have hnext : (motionStep w r).task.phase = .report i
        (if w.task.app = .idle then runtimeSafetyCommand w command
          else (.invalidState, w)).1 := by
      simp only [motionStep, taskExecute, hphase]
      rfl
    constructor
    · unfold motionAccounts
      rw [hphase]
      exact (UInt32.add_zero _).symm
    · rw [hnext]
      unfold motionReports
      rw [hphase, hnext, List.filterMap_append, resultOf_texts]
      rfl
  | report i result =>
    have hexecute : ∀ i command, w.task.phase ≠ .execute i command := by
      intro j command h
      exact absurd (hphase.symm.trans h) (by simp)
    refine ⟨?_, (results_of_ne hexecute).trans (uncounted_of_ne hexecute).symm⟩
    unfold motionAccounts
    rw [hphase]
    cases accepted <;> cases result <;> first | rfl | exact (UInt32.add_zero _).symm
  | _ =>
    have hexecute : ∀ i command, w.task.phase ≠ .execute i command := by
      intro i command h
      exact absurd (hphase.symm.trans h) (by simp)
    refine ⟨?_, (results_of_ne hexecute).trans (uncounted_of_ne hexecute).symm⟩
    unfold motionAccounts
    rw [hphase]
    try cases r
    all_goals exact (UInt32.add_zero _).symm

/-- **Step lemma.**  A section counts what it is given. -/
lemma received_motionStep (w : World) (r : Option MotionCommand) (type : CommandType) :
    (motionStep w r).accounts.receivedByType type =
      w.accounts.receivedByType type + typeCount type (observeGiven (.motion r) w []) := by
  rw [accounts_motionStep]
  unfold motionAccounts observeGiven
  cases hphase : w.task.phase with
  | receive i =>
    cases r with
    | none => exact (UInt32.add_zero _).symm
    | some command =>
      dsimp only
      by_cases htype : command.type = type
      · subst htype
        rw [Function.update_self]
        simp [typeCount]
      · rw [Function.update_of_ne (Ne.symm htype)]
        simp [typeCount, htype]
  | _ => cases r <;> exact (UInt32.add_zero _).symm

omit [Rounding] in
lemma count_transition_controlError (s t : AppState) :
    (transition s t).count controlErrorText = 0 := by
  cases s <;> cases t <;> decide +kernel

/-- **Step lemma.**  A section reports the control error that it counts. -/
lemma controlErrors_motionStep (w : World) (r : Option MotionCommand) :
    (motionStep w r).accounts.controlErrors =
      w.accounts.controlErrors +
        UInt32.ofNat ((motionReports w (motionStep w r) r).count (.text controlErrorText)) := by
  have htexts : ∀ s t, ((transition s t).map Report.text).count (.text controlErrorText) = 0 := by
    intro s t
    rw [count_texts, count_transition_controlError]
  have hzero : ∀ {a : UInt32} {n : ℕ}, n = 0 → a = a + UInt32.ofNat n := by
    rintro a n rfl
    exact (UInt32.add_zero a).symm
  rw [accounts_motionStep]
  generalize hv : motionStep w r = v
  unfold motionAccounts motionReports stateReports
  cases hphase : w.task.phase with
  | create =>
    refine hzero ?_
    dsimp only
    decide +kernel
  | configure =>
    refine hzero ?_
    dsimp only
    split_ifs <;> decide +kernel
  | anchor | clock | sample => exact hzero rfl
  | begin =>
    refine hzero ?_
    dsimp only
    cases w.task.app <;> decide +kernel
  | reconcile => exact hzero (htexts _ _)
  | receive i =>
    cases r with
    | none => exact hzero rfl
    | some command =>
      refine hzero ?_
      dsimp only [receiveReports]
      split_ifs <;> rfl
  | execute i command =>
    refine hzero ?_
    dsimp only
    rw [List.count_append, htexts, Nat.zero_add]
    cases v.task.phase <;> rfl
  | report i result => exact hzero rfl
  | update =>
    have hcomplete : ((if v.motion.data.completedMoves ≠ w.motion.data.completedMoves then
        [Report.text (cString "MOTION COMPLETE output=zero")] else []) : List Report).count
          (.text controlErrorText) = 0 := by
      split_ifs <;> decide +kernel
    dsimp only
    rw [List.count_append, List.count_append, htexts, hcomplete]
    cases (controlSection w).1 with
    | true => exact hzero rfl
    | false => rfl

end Steps

variable [Rounding]

/-- What is given to the runtime. -/
def givenCommands (env : Environment) (as : List Action) : List MotionCommand :=
  Machine.watch step observeGiven (runtimeInit env) [] as

/-- Other actions count nothing of Motion. -/
lemma accounts_other {w : World} {a : Action} (h : ∀ r, a ≠ .motion r) :
    (step a w).accounts.receivedByType = w.accounts.receivedByType ∧
      (∀ accepted, (step a w).accounts.results accepted = w.accounts.results accepted) ∧
      (step a w).accounts.controlErrors = w.accounts.controlErrors := by
  cases a with
  | motion r => exact absurd rfl (h r)
  | safety =>
    change (safetyTask w).accounts.receivedByType = _ ∧
      (∀ accepted, (safetyTask w).accounts.results accepted = _) ∧
      (safetyTask w).accounts.controlErrors = _
    rw [accounts_safetyTask]
    exact ⟨rfl, fun _ => rfl, rfl⟩
  | heartbeat id => exact ⟨rfl, fun _ => rfl, rfl⟩
  | request duty => exact ⟨rfl, fun _ => rfl, rfl⟩

/-- The accounts of a run are what it was given and what it reports. -/
theorem accounts_runtime (env : Environment) (as : List Action) :
    (∀ type, (runtime env as).accounts.receivedByType type =
        typeCount type (givenCommands env as)) ∧
      (∀ accepted, resultCount accepted ((motionLog env as).filterMap resultOf) =
        (runtime env as).accounts.results accepted +
          resultCount accepted (runtime env as).task.phase.uncounted) ∧
      (runtime env as).accounts.controlErrors =
        UInt32.ofNat ((motionLog env as).count (.text controlErrorText)) := by
  induction as using List.reverseRecOn with
  | nil => exact ⟨fun _ => rfl, fun accepted => by cases accepted <;> rfl, rfl⟩
  | append_singleton as a ih =>
    have hlog : motionLog env (as ++ [a]) = observeReports a (runtime env as) (motionLog env as) :=
      Machine.watch_append
    have hrun : runtime env (as ++ [a]) = step a (runtime env as) := Machine.run_append
    have hgiven : givenCommands env (as ++ [a]) =
        observeGiven a (runtime env as) (givenCommands env as) := Machine.watch_append
    obtain ⟨hreceived, hresults, herrors⟩ := ih
    rw [hlog, hrun, hgiven, observeGiven_append]
    by_cases hother : ∀ r, a ≠ .motion r
    · obtain ⟨htypes, hcounts, hsame⟩ := accounts_other (w := runtime env as) hother
      have htask : (step a (runtime env as)).task = (runtime env as).task := (step_other hother).1
      rw [htypes, hsame, htask]
      have hnone : observeGiven a (runtime env as) [] = [] := by
        cases a with
        | motion r => exact absurd rfl (hother r)
        | _ => rfl
      have hquiet : observeReports a (runtime env as) (motionLog env as) = motionLog env as := by
        cases a with
        | motion r => exact absurd rfl (hother r)
        | _ => rfl
      rw [hnone, hquiet, List.append_nil]
      refine ⟨hreceived, fun accepted => ?_, herrors⟩
      rw [hcounts]
      exact hresults accepted
    · push Not at hother
      obtain ⟨r, rfl⟩ := hother
      refine ⟨fun type => ?_, fun accepted => ?_, ?_⟩
      · rw [typeCount_append, ← hreceived type]
        exact received_motionStep _ r type
      · obtain ⟨hcount, hpending⟩ := results_motionStep (runtime env as) r accepted
        rw [observeReports, List.filterMap_append, hpending, resultCount_append, hresults]
        exact congrArg (· + _) hcount.symm
      · rw [observeReports, List.count_append, UInt32.ofNat_add, ← herrors]
        exact controlErrors_motionStep _ r

/-- **Counters and log.**  In every run of the runtime the counters of Motion are what its log says:
of each type it has received the commands that it has answered and the one that it executes; the
accepted and the refused results are those reported, but for the one that is still to be counted;
and the control errors are those reported. -/
theorem counters_agree (env : Environment) (as : List Action) :
    let w := runtime env as
    let log := motionLog env as
    (∀ type, w.rt.receivedByType type =
      UInt32.ofNat ((log.filterMap answerOf ++ w.task.phase.executing).countP
        fun command => decide (command.type = type))) ∧
    UInt32.ofNat ((log.filterMap resultOf).countP fun result => decide (result = .accepted)) =
      w.rt.motionAccepted + UInt32.ofNat (w.task.phase.uncounted.countP
        fun result => decide (result = .accepted)) ∧
    UInt32.ofNat ((log.filterMap resultOf).countP fun result => decide (result ≠ .accepted)) =
      w.rt.motionRejected + UInt32.ofNat (w.task.phase.uncounted.countP
        fun result => decide (result ≠ .accepted)) ∧
    w.rt.controlErrors = UInt32.ofNat (log.count (.text controlErrorText)) := by
  obtain ⟨hreceived, hresults, herrors⟩ := accounts_runtime env as
  have hgiven : givenCommands env as =
      (motionLog env as).filterMap answerOf ++ (runtime env as).task.phase.executing :=
    motionLog_given env as
  have haccepted := hresults true
  have hrejected := hresults false
  simp only [resultCount, Accounts.results, beq_true, beq_false, if_true, Bool.false_eq_true,
    if_false] at haccepted hrejected
  refine ⟨fun type => ?_, haccepted, ?_, herrors⟩
  · rw [← hgiven]
    exact hreceived type
  · simp only [ne_eq, decide_not]
    exact hrejected

end MotionFirmware
