import MotionFirmware.Rtos.Stepping

/-!
# Lockstep

A call of `runtime_step_motion` or `runtime_step_safety` puts one token into circulation: it is with
the target as a notification, with the target in its release, or with the caller as a notification.
While one task of the harness makes the calls, no stop is requested and no wait expires, the token
returns before the next call; so every call returns true and has run exactly one release, and
between the calls both targets wait.

Without these assumptions a late token can make a later call return too early.
-/

namespace MotionFirmware

/-- What an observer of the stepped firmware has seen: what the calls have returned, the
notifications of the targets by the calls, and the releases that have been finished. -/
structure StepLog where
  results : List (ℕ × Target × Bool) := []
  asked : List Target := []
  releases : List Target := []

section Observers

variable {δ ε : Type}

/-- What the calls return in a step. -/
def resultsOf (a : SteppedAction ε) (s : Stepped δ) : List (ℕ × Target × Bool) :=
  match a with
  | .call who t =>
    if s.place who = .outside ∧ s.firmware.pipeline.stopping = true then [(who, t, false)] else []
  | .proceed who =>
    match s.place who with
    | .owner t => if s.stepOwner ≠ none ∧ s.stepOwner ≠ some who then [(who, t, false)] else []
    | .take t => if s.notified who = 0 then [] else [(who, t, decide (s.notified who = 1))]
    | _ => []
  | .expire who =>
    match s.place who with
    | .take t => [(who, t, decide (s.notified who = 1))]
    | _ => []
  | _ => []

/-- The target that a step asks for a release. -/
def askedOf (a : SteppedAction ε) (s : Stepped δ) : List Target :=
  match a with
  | .proceed who =>
    match s.place who with
    | .give t => [t]
    | _ => []
  | _ => []

/-- The release that a step finishes. -/
def releasesOf (a : SteppedAction ε) (s : Stepped δ) : List Target :=
  match a with
  | .task a =>
    match a.target with
    | some t => if !s.waits t && a.finishes t s.firmware then [t] else []
    | none => []
  | _ => []

/-- The log after a step. -/
def observeSteps (a : SteppedAction ε) (s : Stepped δ) (l : StepLog) : StepLog where
  results := l.results ++ resultsOf a s
  asked := l.asked ++ askedOf a s
  releases := l.releases ++ releasesOf a s

/-- The log of a run. -/
def stepLog [Rounding] (driver : InputDriver δ ε) (env : Environment) (input : δ)
    (as : List (SteppedAction ε)) : StepLog :=
  Machine.watch (steppedStep driver) observeSteps (steppedInit env input) {} as

end Observers

/-- The targets of the calls of a task that have returned true, and of those that have not. -/
def StepLog.returned (who : ℕ) (result : Bool) (l : StepLog) : List Target :=
  (l.results.filter fun r => r.1 = who ∧ r.2.2 = result).map fun r => r.2.1

/-! ### The token -/

/-- The target is between its checkpoint and the end of its loop. -/
def Turn.busy : Turn → ℕ
  | .release | .done => 1
  | _ => 0

namespace Stepped

variable {δ : Type}

/-- The notifications of a target, and its release. -/
def work (s : Stepped δ) (t : Target) : ℕ :=
  s.tokens t + (s.through t).toNat + (s.firmware.turn t).busy

/-- The release that is finished and that the call has not returned for. -/
def pending (s : Stepped δ) (who : ℕ) : List Target :=
  match s.place who with
  | .take t => if s.firmware.turn t = .done ∨ s.notified who ≠ 0 then [t] else []
  | _ => []

end Stepped

/-- Only the given task finds `step_owner` unset. -/
def Claims {δ ε : Type} (who : ℕ) (a : SteppedAction ε) (s : Stepped δ) : Prop :=
  ∀ other t, a = .proceed other → s.place other = .owner t → s.stepOwner = none → other = who

/-- No stop is requested, and no wait expires. -/
def SteppedAction.Quiet {ε : Type} (a : SteppedAction ε) : Prop :=
  ∀ who, a ≠ .requestStop who ∧ a ≠ .expire who

/-- The one task that steps, the targets and the log, in lockstep. -/
structure LockStep {δ : Type} (who : ℕ) (s : Stepped δ) (l : StepLog) : Prop where
  aligned : s.firmware.Aligned
  running : s.firmware.pipeline.stopping = false
  /-- The other tasks of the harness are outside, or will be refused. -/
  others : ∀ other, other ≠ who →
    s.notified other = 0 ∧ (s.place other = .outside ∨ ∃ t, s.place other = .owner t)
  owner : s.stepOwner = some who ∨
    s.stepOwner = none ∧ ∀ t, s.place who ≠ .give t ∧ s.place who ≠ .take t
  stops : s.place who ≠ .stopMotion ∧ s.place who ≠ .stopSafety
  through : ∀ t, s.through t = true → s.firmware.begins t = true
  quiet : (∀ t, s.place who ≠ .take t) → s.notified who = 0
  /-- The token of a call is with the target or with the caller. -/
  token : ∀ t, s.work t + (if s.place who = .take t then s.notified who else 0) =
    if s.place who = .take t then 1 else 0
  failed : l.returned who false = []
  order : l.releases = l.returned who true ++ s.pending who

section Step

variable {δ ε : Type} [Rounding] {driver : InputDriver δ ε} {s s' : Stepped δ} {l l' : StepLog}
  {who : ℕ}

omit [Rounding] in
lemma returned_congr (h : l'.results = l.results) (result : Bool) :
    l'.returned who result = l.returned who result := by
  unfold StepLog.returned
  rw [h]

omit [Rounding] in
/-- A target that works has been asked by the call that waits. -/
lemma LockStep.place_of_busy (h : LockStep who s l) {t : Target}
    (hbusy : (s.firmware.turn t).busy = 1) : s.place who = .take t ∧ s.notified who = 0 := by
  have htoken := h.token t
  unfold Stepped.work at htoken
  by_cases hplace : s.place who = .take t
  · rw [if_pos hplace, if_pos hplace] at htoken
    exact ⟨hplace, by omega⟩
  · rw [if_neg hplace, if_neg hplace] at htoken
    omega

omit [Rounding] in
/-- A step that leaves the harness alone, and every token with its target. -/
lemma LockStep.keep (h : LockStep who s l) (haligned : s'.firmware.Aligned)
    (hrunning : s'.firmware.pipeline.stopping = false) (hplace : s'.place = s.place)
    (hnotified : s'.notified = s.notified) (howner : s'.stepOwner = s.stepOwner)
    (hthrough : ∀ t, s'.through t = true → s'.firmware.begins t = true)
    (hwork : ∀ t, s'.work t = s.work t) (hresults : l'.results = l.results)
    (horder : l'.releases = l.returned who true ++ s'.pending who) : LockStep who s' l' := by
  constructor
  · exact haligned
  · exact hrunning
  · rw [hplace, hnotified]
    exact h.others
  · rw [hplace, howner]
    exact h.owner
  · rw [hplace]
    exact h.stops
  · exact hthrough
  · rw [hplace, hnotified]
    exact h.quiet
  · intro t
    rw [hwork, hplace, hnotified]
    exact h.token t
  · rw [returned_congr hresults]
    exact h.failed
  · rw [returned_congr hresults]
    exact horder

omit [Rounding] in
/-- The pending release is the same if the place of the caller, its notifications and the turns
are. -/
lemma pending_congr (hplace : s'.place = s.place) (hnotified : s'.notified = s.notified)
    (hturn : ∀ t, s.place who = .take t →
      (s'.firmware.turn t = .done ↔ s.firmware.turn t = .done)) :
    s'.pending who = s.pending who := by
  unfold Stepped.pending
  rw [hplace, hnotified]
  cases hcaller : s.place who with
  | take t => simp only [hturn t hcaller]
  | _ => rfl

omit [Rounding] in
/-- A request to stop is made by its own step of the pipeline. -/
lemma stopping_pipelineStep {b : PipelineAction ε} (h : b ≠ .requestStop) (p : Pipeline δ) :
    (pipelineStep driver b p).stopping = p.stopping := by
  cases b with
  | requestStop => exact absurd rfl h
  | arrive e =>
    change (p.notify (driver.signal e p.input)).stopping = p.stopping
    cases driver.signal e p.input <;> rfl
  | inputReady => rfl
  | comms =>
    change (commsTask driver p).stopping = p.stopping
    unfold commsTask
    cases p.comms with
    | take =>
      dsimp only
      split_ifs <;> rfl
    | frame i line =>
      dsimp only
      unfold Pipeline.handleFrame
      split <;> rfl
    | _ => rfl
  | timeout =>
    change (commsTimeout p).stopping = p.stopping
    unfold commsTimeout
    cases p.comms <;> rfl
  | motion =>
    change (motionTaskCommands p).stopping = p.stopping
    unfold motionTaskCommands
    cases p.motion with
    | receive i =>
      dsimp only
      split_ifs
      · split <;> rfl
      · rfl
    | _ => rfl

/-- The request to stop is left alone by the other steps. -/
lemma stopping_firmwareStep {a : FirmwareAction ε} (h : a ≠ .requestStop) (f : Firmware δ) :
    (firmwareStep driver a f).pipeline.stopping = f.pipeline.stopping := by
  have hlabels : ∀ b ∈ pipelineLabels a f, b ≠ .requestStop := by
    intro b hb
    unfold pipelineLabels at hb
    cases a with
    | requestStop => exact absurd rfl h
    | motion now =>
      dsimp only at hb
      split_ifs at hb
      · rw [mem_motionPipeline hb]
        simp
      · exact absurd hb List.not_mem_nil
    | comms | timeout =>
      dsimp only at hb
      split_ifs at hb
      · rw [List.mem_singleton.mp hb]
        simp
      · exact absurd hb List.not_mem_nil
    | arrive | inputReady =>
      rw [List.mem_singleton.mp hb]
      simp
    | _ => exact absurd hb List.not_mem_nil
  rw [pipeline_step]
  exact Machine.run_invariant (P := fun (b : PipelineAction ε) _ => b ≠ .requestStop)
    (I := fun p : Pipeline δ => p.stopping = f.pipeline.stopping)
    (fun b p hp hb => (stopping_pipelineStep hb p).trans hp) rfl
    (Machine.along_of_forall_mem hlabels)

/-- A step of the firmware that is no step of a target. -/
lemma LockStep.other (h : LockStep who s l) {a : FirmwareAction ε} (htarget : a.target = none)
    (hstop : a ≠ .requestStop) :
    LockStep who { s with firmware := firmwareStep driver a s.firmware } l := by
  have hsame : ∀ t, SameTurn t s.firmware (firmwareStep driver a s.firmware) := fun t =>
    sameTurn_step (by rw [htarget]; simp) s.firmware
  refine h.keep (h.aligned.step a) ((stopping_firmwareStep hstop _).trans h.running) rfl rfl rfl
    ?_ ?_ rfl ?_
  · intro t ht
    exact (hsame t).begins.trans (h.through t ht)
  · intro t
    unfold Stepped.work
    rw [(hsame t).turn]
  · rw [h.order]
    have hpending :
        ({ s with firmware := firmwareStep driver a s.firmware } : Stepped δ).pending who =
          s.pending who := pending_congr rfl rfl fun t _ => by rw [(hsame t).turn]
    rw [hpending]

omit [Rounding] in
/-- The wait of a target ends with its token. -/
lemma LockStep.begin (h : LockStep who s l) {t : Target} (hwaits : s.waits t = true)
    (htoken : s.tokens t ≠ 0) :
    LockStep who { s with
      tokens := Function.update s.tokens t 0
      through := Function.update s.through t true } l := by
  obtain ⟨hbegins, hthrough⟩ : s.firmware.begins t = true ∧ s.through t = false := by
    simpa [Stepped.waits] using hwaits
  have hone : s.tokens t = 1 := by
    have hsum := h.token t
    unfold Stepped.work at hsum
    split_ifs at hsum <;> omega
  refine h.keep h.aligned h.running rfl rfl rfl ?_ ?_ rfl ?_
  · intro t' ht'
    by_cases hsame : t' = t
    · exact hsame ▸ hbegins
    · exact h.through t' (by simpa [Function.update_of_ne hsame] using ht')
  · intro t'
    unfold Stepped.work
    by_cases hsame : t' = t
    · subst hsame
      simp [hone, hthrough]
    · simp [Function.update_of_ne hsame]
  · rw [h.order]
    exact congrArg _ (pending_congr rfl rfl fun _ _ => Iff.rfl).symm

/-- A step of a target in its loop, if it does not notify the owner. -/
lemma LockStep.advance (h : LockStep who s l) (t : Target) (now : UInt32)
    {through : Target → Bool} {releases : List Target}
    (hothers : ∀ t', t' ≠ t → through t' = s.through t') (hthrough : through t = false)
    (hwork : ((firmwareStep driver (t.action now) s.firmware).turn t).busy =
      (s.through t).toNat + (s.firmware.turn t).busy)
    (horder : releases = l.returned who true ++
      ({ s with
        firmware := firmwareStep driver (t.action now) s.firmware } : Stepped δ).pending who) :
    LockStep who { s with
      firmware := firmwareStep driver (t.action now) s.firmware
      through := through } { l with releases := releases } := by
  have hsame : ∀ t', t' ≠ t →
      SameTurn t' s.firmware (firmwareStep driver (t.action now) s.firmware) := by
    intro t' hne
    refine sameTurn_step ?_ s.firmware
    cases t <;> cases t' <;> first | contradiction | simp [Target.action, FirmwareAction.target]
  have hstop : (t.action now : FirmwareAction ε) ≠ .requestStop := by
    cases t <;> simp [Target.action]
  refine h.keep (h.aligned.step _) ((stopping_firmwareStep hstop _).trans h.running) rfl rfl rfl
    ?_ ?_ rfl horder
  · intro t' ht'
    by_cases heq : t' = t
    · subst heq
      exact absurd (hthrough.symm.trans ht') (by simp)
    · exact (hsame t' heq).begins.trans (h.through t' ((hothers t' heq).symm.trans ht'))
  · intro t'
    unfold Stepped.work
    by_cases heq : t' = t
    · subst heq
      dsimp only
      rw [hthrough, hwork]
      simp only [Bool.toNat_false]
      omega
    · dsimp only
      rw [hothers t' heq, (hsame t' heq).turn]

/-- A target that leaves its loop returns the token to the caller. -/
lemma LockStep.leave (h : LockStep who s l) (t : Target) (now : UInt32)
    (hthrough : s.through t = false) (hdone : s.firmware.turn t = .done)
    (htop : (firmwareStep driver (t.action now) s.firmware).turn t = .top) :
    LockStep who { s.giveOwner with
      firmware := firmwareStep driver (t.action now) s.firmware
      through := s.through } l := by
  have hsame : ∀ t', t' ≠ t →
      SameTurn t' s.firmware (firmwareStep driver (t.action now) s.firmware) := by
    intro t' hne
    refine sameTurn_step ?_ s.firmware
    cases t <;> cases t' <;> first | contradiction | simp [Target.action, FirmwareAction.target]
  have hstop : (t.action now : FirmwareAction ε) ≠ .requestStop := by
    cases t <;> simp [Target.action]
  obtain ⟨hplace, hnotified⟩ := h.place_of_busy (t := t) (by rw [hdone]; rfl)
  have howner : s.stepOwner = some who := by
    rcases h.owner with howner | ⟨-, hnot⟩
    · exact howner
    · exact absurd hplace (hnot t).2
  have hgiven : s.giveOwner =
      { s with notified := Function.update s.notified who (s.notified who + 1) } := by
    unfold Stepped.giveOwner
    rw [howner]
  have htoken : ∀ t', s.work t' = if t' = t then 1 else 0 := by
    intro t'
    have hsum := h.token t'
    rw [hplace, hnotified] at hsum
    by_cases heq : t' = t
    · subst heq
      simpa using hsum
    · have hne : CallerAt.take t ≠ .take t' := fun heq' => heq (CallerAt.take.inj heq').symm
      simpa [hne, heq] using hsum
  rw [hgiven]
  constructor
  · exact h.aligned.step _
  · exact (stopping_firmwareStep hstop _).trans h.running
  · intro other hother
    dsimp only
    rw [Function.update_of_ne hother]
    exact h.others other hother
  · exact h.owner
  · exact h.stops
  · intro t' ht'
    by_cases heq : t' = t
    · subst heq
      exact absurd (hthrough.symm.trans ht') (by simp)
    · exact (hsame t' heq).begins.trans (h.through t' ht')
  · exact fun hnot => absurd hplace (hnot t)
  · intro t'
    have hwork := htoken t'
    unfold Stepped.work at hwork ⊢
    dsimp only
    rw [hplace, Function.update_self, hnotified]
    by_cases heq : t' = t
    · subst heq
      rw [hdone, if_pos rfl] at hwork
      have hbusy : Turn.done.busy = 1 := rfl
      have hidle : Turn.top.busy = 0 := rfl
      rw [htop, if_pos rfl, hidle]
      omega
    · have hne : CallerAt.take t ≠ .take t' := fun heq' => heq (CallerAt.take.inj heq').symm
      rw [if_neg heq] at hwork
      rw [(hsame t' heq).turn, if_neg hne, hwork]
  · exact h.failed
  · rw [h.order]
    simp [Stepped.pending, hplace, hdone]

/-- A step of a target. -/
lemma LockStep.target (h : LockStep who s l) (t : Target) (now : UInt32) :
    LockStep who (targetStep driver t (t.action now) s)
      { l with releases := l.releases ++
          if !s.waits t && FirmwareAction.finishes t (t.action now : FirmwareAction ε) s.firmware
          then [t] else [] } := by
  unfold targetStep
  cases hwaits : s.waits t with
  | true =>
    rw [if_pos rfl]
    simp only [Bool.not_true, Bool.false_and, Bool.false_eq_true, if_false, List.append_nil]
    by_cases htoken : s.tokens t = 0
    · rw [if_pos htoken]
      exact h
    · rw [if_neg htoken]
      exact h.begin hwaits htoken
  | false =>
    have hnext := @turn_step δ ε _ driver s.firmware h.aligned t now
    simp only [Bool.not_false, Bool.true_and, Bool.false_eq_true, if_false]
    have hidle : s.firmware.begins t = false → s.through t = false := by
      intro hbegins
      by_contra hthrough
      rw [h.through t (by simpa using hthrough)] at hbegins
      exact absurd hbegins (by simp)
    -- the release of another target is not pending
    have hpending : (s.firmware.turn t = .done ↔
          (firmwareStep driver (t.action now) s.firmware).turn t = .done) →
        ({ s with firmware := firmwareStep driver (t.action now) s.firmware } :
          Stepped δ).pending who = s.pending who := by
      intro hturn
      refine pending_congr rfl rfl fun t' _ => ?_
      by_cases heq : t' = t
      · subst heq
        exact hturn.symm
      · have hother : SameTurn t' s.firmware (firmwareStep driver (t.action now) s.firmware) := by
          refine sameTurn_step ?_ s.firmware
          cases t <;> cases t' <;>
            first | contradiction | simp [Target.action, FirmwareAction.target]
        dsimp only
        rw [hother.turn]
    have hpassed : s.firmware.begins t = true → s.through t = true := by
      intro hbegins
      unfold Stepped.waits at hwaits
      rw [hbegins] at hwaits
      simpa using hwaits
    generalize hbegins : s.firmware.begins t = begins at hnext hidle hpassed ⊢
    generalize hfinishes : FirmwareAction.finishes t (t.action now : FirmwareAction ε) s.firmware =
      finishes at hnext ⊢
    generalize hends : s.firmware.ends t = ends at hnext ⊢
    generalize hbefore : s.firmware.turn t = before at hnext hpending
    generalize hafter : (firmwareStep driver (t.action now) s.firmware).turn t = after
      at hnext hpending
    cases hnext with
    | stay =>
      refine h.advance t now (fun _ _ => rfl) (hidle rfl) ?_ ?_
      · rw [hidle rfl, hbefore, hafter]
        exact (Nat.zero_add _).symm
      · rw [hpending Iff.rfl]
        exact (List.append_nil _).trans h.order
    | start =>
      refine h.advance t now (fun _ _ => rfl) (hidle rfl) ?_ ?_
      · rw [hidle rfl, hbefore, hafter]
        rfl
      · rw [hpending (by simp)]
        exact (List.append_nil _).trans h.order
    | enter =>
      refine h.advance t now (fun t' hne => Function.update_of_ne hne _ _)
        (Function.update_self _ _ _) ?_ ?_
      · rw [hpassed rfl, hbefore, hafter]
        rfl
      · rw [hpending (by simp)]
        exact (List.append_nil _).trans h.order
    | stop hstop => exact absurd (h.running.symm.trans hstop) (by simp)
    | finish =>
      refine h.advance t now (fun _ _ => rfl) (hidle rfl) ?_ ?_
      · rw [hidle rfl, hbefore, hafter]
        rfl
      · -- the call that waits has asked for this release
        obtain ⟨hplace, hnotified⟩ := h.place_of_busy (t := t) (by rw [hbefore]; rfl)
        have hnone : s.pending who = [] := by simp [Stepped.pending, hplace, hbefore, hnotified]
        have hsome : ({ s with firmware := firmwareStep driver (t.action now) s.firmware } :
            Stepped δ).pending who = [t] := by simp [Stepped.pending, hplace, hafter]
        rw [hsome, if_pos rfl, h.order, hnone, List.append_nil]
    | leave =>
      have hleft := @LockStep.leave δ ε _ driver _ _ _ h t now (hidle rfl) hbefore hafter
      simpa using hleft

/-! ### The steps of the harness -/

omit [Rounding] in
/-- What another task of the harness does between its calls. -/
lemma LockStep.goto_other (h : LockStep who s l) {other : ℕ} (hother : other ≠ who)
    {place : CallerAt} (hplace : place = .outside ∨ ∃ t, place = .owner t)
    (results : List (ℕ × Target × Bool)) (hresults : ∀ r ∈ results, r.1 = other) :
    LockStep who (s.goto other place) { l with results := l.results ++ results } := by
  have hcaller : (s.goto other place).place who = s.place who :=
    Function.update_of_ne hother.symm _ _
  have hnone : ∀ result, (results.filter fun r => r.1 = who ∧ r.2.2 = result) = [] := by
    intro result
    refine List.filter_eq_nil_iff.mpr fun r hr hmatch => hother ?_
    rw [← hresults r hr]
    exact (of_decide_eq_true hmatch).1
  have hreturned : ∀ result, StepLog.returned who result
      { l with results := l.results ++ results } = l.returned who result := by
    intro result
    unfold StepLog.returned
    rw [List.filter_append, hnone, List.append_nil]
  constructor
  · exact h.aligned
  · exact h.running
  · intro third hthird
    refine ⟨(h.others third hthird).1, ?_⟩
    by_cases heq : third = other
    · subst heq
      have hgoto : (s.goto third place).place third = place := Function.update_self _ _ _
      rw [hgoto]
      exact hplace
    · have hgoto : (s.goto other place).place third = s.place third :=
        Function.update_of_ne heq _ _
      rw [hgoto]
      exact (h.others third hthird).2
  · rw [hcaller]
    exact h.owner
  · rw [hcaller]
    exact h.stops
  · exact h.through
  · rw [hcaller]
    exact h.quiet
  · rw [hcaller]
    exact h.token
  · rw [hreturned]
    exact h.failed
  · rw [hreturned]
    have hpending : (s.goto other place).pending who = s.pending who := by
      unfold Stepped.pending
      rw [hcaller]
      rfl
    rw [hpending]
    exact h.order

omit [Rounding] in
/-- The caller between its calls, or on its way to the notification. -/
lemma LockStep.goto_caller (h : LockStep who s l) (place : CallerAt) (owner : Option ℕ)
    (hbefore : ∀ t, s.place who ≠ .take t) (hafter : ∀ t, place ≠ .take t)
    (howner : owner = some who ∨ owner = none ∧ ∀ t, place ≠ .give t)
    (hstops : place ≠ .stopMotion ∧ place ≠ .stopSafety) :
    LockStep who { s.goto who place with stepOwner := owner } l := by
  have hcaller : ({ s.goto who place with stepOwner := owner } : Stepped δ).place who = place :=
    Function.update_self _ _ _
  have hquiet := h.quiet hbefore
  constructor
  · exact h.aligned
  · exact h.running
  · intro other hother
    have hgoto : ({ s.goto who place with stepOwner := owner } : Stepped δ).place other =
        s.place other := Function.update_of_ne hother _ _
    rw [hgoto]
    exact h.others other hother
  · rw [hcaller]
    rcases howner with howner | ⟨howner, hgive⟩
    · exact Or.inl howner
    · exact Or.inr ⟨howner, fun t => ⟨hgive t, hafter t⟩⟩
  · rw [hcaller]
    exact hstops
  · exact h.through
  · exact fun _ => hquiet
  · intro t
    have htoken := h.token t
    rw [hcaller, if_neg (hafter t), if_neg (hafter t)]
    rwa [if_neg (hbefore t), if_neg (hbefore t)] at htoken
  · exact h.failed
  · have hnone : s.pending who = [] := by
      unfold Stepped.pending
      cases hplace : s.place who with
      | take t => exact absurd hplace (hbefore t)
      | _ => rfl
    have hnone' : ({ s.goto who place with stepOwner := owner } : Stepped δ).pending who = [] := by
      unfold Stepped.pending
      rw [hcaller]
      cases hplace : place with
      | take t => exact absurd hplace (hafter t)
      | _ => rfl
    rw [hnone', h.order, hnone]

omit [Rounding] in
/-- The notification of a target puts the token into circulation. -/
lemma LockStep.give (h : LockStep who s l) {t : Target} (hplace : s.place who = .give t) :
    LockStep who ((s.goto who (.take t)).giveTarget t) l := by
  have hbefore : ∀ t', s.place who ≠ .take t' := by
    intro t'
    rw [hplace]
    simp
  have hcaller : ((s.goto who (.take t)).giveTarget t).place who = .take t :=
    Function.update_self _ _ _
  have hquiet := h.quiet hbefore
  have hidle : ∀ t', s.work t' = 0 := by
    intro t'
    have htoken := h.token t'
    rwa [if_neg (hbefore t'), if_neg (hbefore t'), Nat.add_zero] at htoken
  constructor
  · exact h.aligned
  · exact h.running
  · intro other hother
    have hgoto : ((s.goto who (.take t)).giveTarget t).place other = s.place other :=
      Function.update_of_ne hother _ _
    rw [hgoto]
    exact h.others other hother
  · refine Or.inl (h.owner.resolve_right ?_)
    rintro ⟨-, hnot⟩
    exact (hnot t).1 hplace
  · rw [hcaller]
    simp
  · exact h.through
  · exact fun hnot => absurd hcaller (hnot t)
  · intro t'
    have hnone := hidle t'
    have hnotified : ((s.goto who (.take t)).giveTarget t).notified who = 0 := hquiet
    rw [hcaller, hnotified]
    unfold Stepped.work at hnone ⊢
    by_cases heq : t' = t
    · subst heq
      have htokens : ((s.goto who (.take t')).giveTarget t').tokens t' = s.tokens t' + 1 :=
        Function.update_self _ _ _
      rw [htokens, if_pos rfl, if_pos rfl]
      change s.tokens t' + 1 + (s.through t').toNat + (s.firmware.turn t').busy + 0 = 1
      omega
    · have htokens : ((s.goto who (.take t)).giveTarget t).tokens t' = s.tokens t' :=
        Function.update_of_ne heq _ _
      have hne : CallerAt.take t ≠ .take t' := fun heq' => heq (CallerAt.take.inj heq').symm
      rw [htokens, if_neg hne, if_neg hne]
      exact hnone
  · exact h.failed
  · have hnone : s.pending who = [] := by simp [Stepped.pending, hplace]
    have hturn : s.firmware.turn t ≠ .done := by
      intro hdone
      have hwork := hidle t
      unfold Stepped.work at hwork
      rw [hdone] at hwork
      exact absurd hwork (by simp [Turn.busy])
    have hnone' : ((s.goto who (.take t)).giveTarget t).pending who = [] := by
      have hnotified : ((s.goto who (.take t)).giveTarget t).notified who = 0 := hquiet
      unfold Stepped.pending
      rw [hcaller]
      dsimp only
      rw [hnotified]
      exact if_neg (by simpa [Stepped.giveTarget, Stepped.goto] using hturn)
    rw [hnone', h.order, hnone]

omit [Rounding] in
/-- The call returns true when the token is back. -/
lemma LockStep.resume (h : LockStep who s l) {t : Target} (hplace : s.place who = .take t)
    (hnotified : s.notified who ≠ 0) :
    s.notified who = 1 ∧
      LockStep who (s.resume who) { l with results := l.results ++ [(who, t, true)] } := by
  have hcaller : (s.resume who).place who = .outside := Function.update_self _ _ _
  have hown := h.token t
  rw [if_pos hplace, if_pos hplace] at hown
  have hone : s.notified who = 1 := by omega
  have hidle : ∀ t', s.work t' = 0 := by
    intro t'
    by_cases heq : t' = t
    · subst heq
      omega
    · have hne : s.place who ≠ .take t' := by
        rw [hplace]
        exact fun heq' => heq (CallerAt.take.inj heq').symm
      have htoken := h.token t'
      rwa [if_neg hne, if_neg hne, Nat.add_zero] at htoken
  have hreturned : ∀ result, StepLog.returned who result
      { l with results := l.results ++ [(who, t, true)] } =
        l.returned who result ++ if result = true then [t] else [] := by
    intro result
    unfold StepLog.returned
    rw [List.filter_append, List.map_append]
    cases result <;> simp
  refine ⟨hone, ?_⟩
  constructor
  · exact h.aligned
  · exact h.running
  · intro other hother
    have hgoto : (s.resume who).place other = s.place other := Function.update_of_ne hother _ _
    have hvalue : (s.resume who).notified other = s.notified other :=
      Function.update_of_ne hother _ _
    rw [hgoto, hvalue]
    exact h.others other hother
  · refine Or.inl (h.owner.resolve_right ?_)
    rintro ⟨-, hnot⟩
    exact (hnot t).2 hplace
  · rw [hcaller]
    simp
  · exact h.through
  · exact fun _ => Function.update_self _ _ _
  · intro t'
    rw [hcaller, if_neg (by simp), if_neg (by simp)]
    exact hidle t'
  · rw [hreturned, h.failed]
    rfl
  · have hpending : s.pending who = [t] := by simp [Stepped.pending, hplace, hnotified]
    have hnone : (s.resume who).pending who = [] := by
      unfold Stepped.pending
      rw [hcaller]
    rw [hreturned, hnone, List.append_nil]
    change l.releases = _
    rw [h.order, hpending]
    rfl

omit [Rounding] in
/-- The lockstep is one of the results and the releases. -/
lemma LockStep.log (h : LockStep who s l) (hresults : l'.results = l.results)
    (hreleases : l'.releases = l.releases) : LockStep who s l' :=
  h.keep h.aligned h.running rfl rfl rfl h.through (fun _ => rfl) hresults (hreleases.trans h.order)

omit [Rounding] in
/-- A task of the harness proceeds. -/
lemma LockStep.proceed (h : LockStep who s l) (other : ℕ)
    (hclaims : Claims who (.proceed other : SteppedAction ε) s) :
    LockStep who (s.proceed other) (observeSteps (.proceed other : SteppedAction ε) s l) := by
  by_cases hother : other = who
  · subst hother
    have hnone : s.place other ≠ .stopMotion ∧ s.place other ≠ .stopSafety := h.stops
    unfold Stepped.proceed
    cases hplace : s.place other with
    | outside =>
      refine h.log ?_ (List.append_nil _)
      simp only [observeSteps, resultsOf, hplace, List.append_nil]
    | owner t =>
      have hgranted : ¬ (s.stepOwner ≠ none ∧ s.stepOwner ≠ some other) := by
        rintro ⟨hset, hforeign⟩
        rcases h.owner with howner | ⟨howner, -⟩
        · exact hforeign howner
        · exact hset howner
      dsimp only
      rw [if_neg hgranted]
      have hclaimed := h.goto_caller (.claim t) s.stepOwner (by simp [hplace]) (by simp)
        (h.owner.imp_right fun hunset => ⟨hunset.1, by simp⟩) (by simp)
      refine hclaimed.log ?_ (List.append_nil _)
      simp only [observeSteps, resultsOf, hplace, if_neg hgranted, List.append_nil]
    | claim t =>
      have howned := h.goto_caller (.give t) (some other) (by simp [hplace]) (by simp)
        (Or.inl rfl) (by simp)
      refine howned.log ?_ (List.append_nil _)
      simp only [observeSteps, resultsOf, hplace, List.append_nil]
    | give t =>
      refine (h.give hplace).log ?_ (List.append_nil _)
      simp only [observeSteps, resultsOf, hplace, List.append_nil]
    | take t =>
      dsimp only
      by_cases hnotified : s.notified other = 0
      · rw [if_pos hnotified]
        refine h.log ?_ (List.append_nil _)
        simp only [observeSteps, resultsOf, hplace, if_pos hnotified, List.append_nil]
      · rw [if_neg hnotified]
        obtain ⟨hone, hresume⟩ := h.resume hplace hnotified
        refine hresume.log ?_ (List.append_nil _)
        simp [observeSteps, resultsOf, hplace, hone]
    | stopMotion => exact absurd hplace hnone.1
    | stopSafety => exact absurd hplace hnone.2
  · obtain ⟨hnotified, hplace⟩ := h.others other hother
    unfold Stepped.proceed
    rcases hplace with hplace | ⟨t, hplace⟩
    · rw [hplace]
      refine h.log ?_ (List.append_nil _)
      simp only [observeSteps, resultsOf, hplace, List.append_nil]
    · -- `step_owner` has been set to the caller
      have howner : s.stepOwner = some who := by
        refine h.owner.resolve_right fun hunset => hother ?_
        exact hclaims other t rfl hplace hunset.1
      have hrefused : s.stepOwner ≠ none ∧ s.stepOwner ≠ some other := by
        rw [howner]
        exact ⟨by simp, fun heq => hother (Option.some.inj heq).symm⟩
      rw [hplace]
      dsimp only
      rw [if_pos hrefused]
      have hleft := h.goto_other hother (Or.inl rfl) [(other, t, false)] (by simp)
      refine hleft.log ?_ (List.append_nil _)
      simp only [observeSteps, resultsOf, hplace, if_pos hrefused]

/-- **Step lemma.**  Every step keeps the lockstep. -/
theorem LockStep.step (h : LockStep who s l) (a : SteppedAction ε) (hquiet : a.Quiet)
    (hclaims : Claims who a s) : LockStep who (steppedStep driver a s) (observeSteps a s l) := by
  cases a with
  | task a =>
    cases a with
    | motion now =>
      refine (h.target .motion now).log (List.append_nil _) ?_
      rfl
    | safety now =>
      refine (h.target .safety now).log (List.append_nil _) ?_
      rfl
    | requestStop => exact h.log (List.append_nil _) (List.append_nil _)
    | _ =>
      refine (h.other ?_ ?_).log (List.append_nil _) (List.append_nil _)
      · rfl
      · simp
  | call other t =>
    unfold steppedStep Stepped.call
    dsimp only
    have hsame : (observeSteps (.call other t : SteppedAction ε) s l).results = l.results := by
      simp [observeSteps, resultsOf, h.running]
    split_ifs with hcall
    · by_cases hother : other = who
      · subst hother
        have hentered := h.goto_caller (.owner t) s.stepOwner (by simp [hcall.1]) (by simp)
          (h.owner.imp_right fun hunset => ⟨hunset.1, by simp⟩) (by simp)
        exact hentered.log hsame (List.append_nil _)
      · have hentered := h.goto_other hother (Or.inr ⟨t, rfl⟩) [] (by simp)
        exact hentered.log (hsame.trans (List.append_nil _).symm) (List.append_nil _)
    · exact h.log hsame (List.append_nil _)
  | requestStop other => exact absurd rfl (hquiet other).1
  | proceed other => exact h.proceed other hclaims
  | expire other => exact absurd rfl (hquiet other).2

omit [Rounding] in
/-- At most one target is in a release. -/
lemma LockStep.alone (h : LockStep who s l) {t t' : Target}
    (hbusy : (s.firmware.turn t).busy = 1) (hbusy' : (s.firmware.turn t').busy = 1) : t = t' := by
  have hplace := (h.place_of_busy hbusy).1
  rw [(h.place_of_busy hbusy').1] at hplace
  exact (CallerAt.take.inj hplace).symm

end Step

/-- **Lockstep.**  While one task makes the calls, no stop is requested and no wait expires, every
call that has returned has returned true; the releases that have been finished are, in their order,
those of these calls, and at most the one that the current call waits for; at most one target is in
a release, and while no call waits none is. -/
theorem stepped_lockstep [Rounding] {δ ε : Type} (driver : InputDriver δ ε) (env : Environment)
    (input : δ) (who : ℕ) (as : List (SteppedAction ε))
    (hclaims : Machine.Along (steppedStep driver) (Claims who) (steppedInit env input) as)
    (hquiet : ∀ a ∈ as, a.Quiet) :
    let s := stepped driver env input as
    let l := stepLog driver env input as
    l.returned who false = [] ∧ l.releases = l.returned who true ++ s.pending who ∧
      (s.pending who).length ≤ 1 ∧
      (∀ t t', (s.firmware.turn t).busy = 1 → (s.firmware.turn t').busy = 1 → t = t') ∧
      ((∀ t, s.place who ≠ .take t) → ∀ t, s.work t = 0) := by
  intro s l
  have hboth : Machine.Along (steppedStep driver) (fun a s => a.Quiet ∧ Claims who a s)
      (steppedInit env input) as := by
    rw [Machine.along_iff_forall_split] at hclaims ⊢
    intro bs a cs hsplit
    exact ⟨hquiet a (by simp [hsplit]), hclaims bs a cs hsplit⟩
  have hstart : LockStep who (steppedInit env input) {} := by
    constructor
    · exact aligned_firmware driver env input []
    · rfl
    · exact fun other _ => ⟨rfl, Or.inl rfl⟩
    · exact Or.inr ⟨rfl, fun t => ⟨by simp [steppedInit], by simp [steppedInit]⟩⟩
    · exact ⟨by simp [steppedInit], by simp [steppedInit]⟩
    · exact fun t ht => absurd ht (by simp [steppedInit])
    · exact fun _ => rfl
    · intro t
      cases t <;> rfl
    · rfl
    · rfl
  have hlockstep : LockStep who s l :=
    Machine.watch_invariant (I := fun s l => LockStep who s l)
      (fun a s l h ha => h.step a ha.1 ha.2) hstart hboth
  refine ⟨hlockstep.failed, hlockstep.order, ?_, fun t t' h h' => hlockstep.alone h h', ?_⟩
  · unfold Stepped.pending
    split
    · split_ifs <;> simp
    · simp
  · intro hnot t
    have htoken := hlockstep.token t
    rwa [if_neg (hnot t), if_neg (hnot t), Nat.add_zero] at htoken

/-- Motion starts up, one call of `runtime_step_motion` is made, and Motion runs on. -/
def oneStep : List (SteppedAction HostEvent) :=
  List.replicate 8 (.task (.motion 0)) ++ [.call 0 .motion] ++ List.replicate 3 (.proceed 0) ++
    List.replicate 30 (.task (.motion 0)) ++ [.proceed 0]

/-- The call has run one release. -/
theorem stepped_lockstep_once :
    (@stepLog _ _ Binary32.rounding hostDriver standstill { script := [], active := true }
      oneStep).releases = [.motion] := by
  have hquiet : ∀ a ∈ oneStep, a.Quiet := by
    unfold oneStep SteppedAction.Quiet
    simp [or_imp, forall_and]
  have hcaller : ∀ a ∈ oneStep, ∀ other, a = .proceed other → other = 0 := by
    unfold oneStep
    simp [or_imp, forall_and]
  have hclaims : Machine.Along (@steppedStep Binary32.rounding _ _ hostDriver) (Claims 0)
      (steppedInit standstill { script := [], active := true }) oneStep :=
    (Machine.along_of_forall_mem hcaller).imp fun a s h other t ha _ _ => h other ha
  have hreturned : (@stepLog _ _ Binary32.rounding hostDriver standstill
      { script := [], active := true } oneStep).returned 0 true = [.motion] := by decide +kernel
  have hpending : (@stepped Binary32.rounding _ _ hostDriver standstill
      { script := [], active := true } oneStep).pending 0 = [] := by decide +kernel
  have hlockstep := (@stepped_lockstep Binary32.rounding _ _ hostDriver standstill
    { script := [], active := true } 0 oneStep hclaims hquiet).2.1
  rw [hreturned, hpending] at hlockstep
  exact hlockstep

end MotionFirmware
