import MotionFirmware.Rtos.LockStep

/-!
# Releases and requests

A notification that comes late, a second caller or a stop can break the lockstep.  What is left is
that a target passes the top of its loop only with a notification: it finishes at most as many
releases as the calls have asked for, since the notifications of a stop find the stop requested.
-/

namespace MotionFirmware

/-- The releases of the targets against what they have been asked for. -/
structure Requested {δ : Type} (s : Stepped δ) (l : StepLog) : Prop where
  aligned : s.firmware.Aligned
  /-- The notifications of a stop follow the request. -/
  stops : ∀ who, s.place who = .stopMotion ∨ s.place who = .stopSafety →
    s.firmware.pipeline.stopping = true
  tokens : ∀ t, s.firmware.pipeline.stopping = false →
    l.releases.count t + (s.tokens t + (s.through t).toNat) +
      (if s.firmware.turn t = .release then 1 else 0) ≤ l.asked.count t
  releases : ∀ t, l.releases.count t + (if s.firmware.turn t = .release then 1 else 0) ≤
    l.asked.count t

section Requests

variable {δ ε : Type} [Rounding] {driver : InputDriver δ ε} {s s' : Stepped δ} {l l' : StepLog}

omit [Rounding] in
/-- A step that finishes no release, and gives no token but one that was asked for. -/
lemma Requested.of_le (h : Requested s l) (haligned : s'.firmware.Aligned)
    (hstopping : s.firmware.pipeline.stopping = true → s'.firmware.pipeline.stopping = true)
    (hstops : ∀ who, s'.place who = .stopMotion ∨ s'.place who = .stopSafety →
      s'.firmware.pipeline.stopping = true)
    (hturn : ∀ t, s'.firmware.turn t = s.firmware.turn t) (hthrough : s'.through = s.through)
    (hasked : ∀ t, l.asked.count t ≤ l'.asked.count t)
    (htokens : ∀ t, s'.firmware.pipeline.stopping = false →
      s'.tokens t + l.asked.count t ≤ s.tokens t + l'.asked.count t)
    (hreleases : l'.releases = l.releases) : Requested s' l' := by
  constructor
  · exact haligned
  · exact hstops
  · intro t hrunning
    have hbefore : s.firmware.pipeline.stopping = false := by
      by_contra hstop
      exact absurd (hrunning.symm.trans (hstopping (by simpa using hstop))) (by simp)
    have hcount := h.tokens t hbefore
    have hgiven := htokens t hrunning
    rw [hreleases, hturn, hthrough]
    omega
  · intro t
    have hcount := h.releases t
    have hmore := hasked t
    rw [hreleases, hturn]
    omega

omit [Rounding] in
lemma giveOwner_tokens (s : Stepped δ) :
    s.giveOwner.tokens = s.tokens ∧ s.giveOwner.place = s.place := by
  unfold Stepped.giveOwner
  split <;> exact ⟨rfl, rfl⟩

/-- A step of a target in its loop. -/
lemma Requested.advance (h : Requested s l) (t : Target) (now : UInt32) {releases : List Target}
    (hfirmware : s'.firmware = firmwareStep driver (t.action now) s.firmware)
    (hplace : s'.place = s.place) (htokens : s'.tokens = s.tokens)
    (hothers : ∀ t', t' ≠ t → s'.through t' = s.through t' ∧ releases.count t' = 0)
    (hmoves : s.firmware.pipeline.stopping = false →
      releases.count t + (s'.through t).toNat +
          (if s'.firmware.turn t = .release then 1 else 0) ≤
        (s.through t).toNat + if s.firmware.turn t = .release then 1 else 0)
    (hcount : l.releases.count t + releases.count t +
        (if s'.firmware.turn t = .release then 1 else 0) ≤ l.asked.count t) :
    Requested s' { l with releases := l.releases ++ releases } := by
  have hstop : (t.action now : FirmwareAction ε) ≠ .requestStop := by
    cases t <;> simp [Target.action]
  have hstopping : s'.firmware.pipeline.stopping = s.firmware.pipeline.stopping := by
    rw [hfirmware]
    exact stopping_firmwareStep hstop _
  have hsame : ∀ t', t' ≠ t → s'.firmware.turn t' = s.firmware.turn t' := by
    intro t' hne
    rw [hfirmware]
    refine (sameTurn_step ?_ s.firmware).turn
    cases t <;> cases t' <;> first | contradiction | simp [Target.action, FirmwareAction.target]
  constructor
  · rw [hfirmware]
    exact h.aligned.step _
  · rw [hplace, hstopping]
    exact h.stops
  · intro t' hrunning
    rw [hstopping] at hrunning
    have hbefore := h.tokens t' hrunning
    rw [htokens, List.count_append]
    by_cases heq : t' = t
    · subst heq
      have hstep := hmoves hrunning
      dsimp only
      omega
    · rw [(hothers t' heq).1, (hothers t' heq).2, hsame t' heq]
      exact hbefore
  · intro t'
    rw [List.count_append]
    by_cases heq : t' = t
    · subst heq
      exact hcount
    · rw [(hothers t' heq).2, hsame t' heq]
      exact h.releases t'

/-- A step of a target. -/
lemma Requested.target (h : Requested s l) (t : Target) (now : UInt32) :
    Requested (targetStep driver t (t.action now) s)
      { l with releases := l.releases ++
          if !s.waits t && FirmwareAction.finishes t (t.action now : FirmwareAction ε) s.firmware
          then [t] else [] } := by
  unfold targetStep
  cases hwaits : s.waits t with
  | true =>
    obtain ⟨-, hthrough⟩ : s.firmware.begins t = true ∧ s.through t = false := by
      simpa [Stepped.waits] using hwaits
    rw [if_pos rfl]
    simp only [Bool.not_true, Bool.false_and, Bool.false_eq_true, if_false, List.append_nil]
    by_cases htoken : s.tokens t = 0
    · rw [if_pos htoken]
      exact h
    · rw [if_neg htoken]
      refine ⟨h.aligned, h.stops, fun t' hrunning => ?_, h.releases⟩
      have hbefore := h.tokens t' hrunning
      by_cases heq : t' = t
      · subst heq
        simp only [Function.update_self, Bool.toNat_true]
        rw [hthrough, Bool.toNat_false] at hbefore
        omega
      · simp only [Function.update_of_ne heq]
        exact hbefore
  | false =>
    have hnext := @turn_step δ ε _ driver s.firmware h.aligned t now
    simp only [Bool.not_false, Bool.true_and, Bool.false_eq_true, if_false]
    have hreleases := h.releases t
    have htokens := h.tokens t
    have hpassed : s.firmware.begins t = true → s.through t = true := by
      intro hbegins
      unfold Stepped.waits at hwaits
      rw [hbegins] at hwaits
      simpa using hwaits
    have hgiven : ∀ ends : Bool, (if ends then s.giveOwner else s).tokens = s.tokens ∧
        (if ends then s.giveOwner else s).place = s.place := by
      intro ends
      cases ends
      · exact ⟨rfl, rfl⟩
      · exact giveOwner_tokens s
    generalize hbegins : s.firmware.begins t = begins at hnext hpassed ⊢
    generalize hfinishes : FirmwareAction.finishes t (t.action now : FirmwareAction ε) s.firmware =
      finishes at hnext ⊢
    generalize hends : s.firmware.ends t = ends at hnext ⊢
    generalize hbefore : s.firmware.turn t = before at hnext hreleases htokens
    generalize hafter : (firmwareStep driver (t.action now) s.firmware).turn t = after at hnext
    have hothers : ∀ t', t' ≠ t →
        (if begins then Function.update s.through t false else s.through) t' = s.through t' ∧
          (if finishes then [t] else []).count t' = 0 := by
      intro t' hne
      constructor
      · cases begins
        · rfl
        · exact Function.update_of_ne hne _ _
      · cases finishes
        · rfl
        · simp [hne.symm]
    refine h.advance t now rfl (hgiven ends).2 (hgiven ends).1 hothers ?_ ?_
    · intro hrunning
      cases hnext with
      | enter =>
        simp only [hpassed rfl, hbefore, hafter]
        simp
      | stop hstop => exact absurd (hrunning.symm.trans hstop) (by simp)
      | finish => simp [hbefore, hafter, Nat.add_comm]
      | _ => simp [hbefore, hafter]
    · cases hnext with
      | enter hrunning =>
        have hcount := htokens hrunning
        rw [hpassed rfl, Bool.toNat_true] at hcount
        simp only [hafter]
        simp
        omega
      | _ =>
        simp [hafter] at hreleases ⊢
        omega

omit [Rounding] in
/-- A task of the harness that goes on without a notification of a target. -/
lemma Requested.goto (h : Requested s l) (hfirmware : s'.firmware = s.firmware)
    (hthrough : s'.through = s.through) (htokens : s'.tokens = s.tokens)
    (hplaces : ∀ who, s'.place who = .stopMotion ∨ s'.place who = .stopSafety →
      s.place who = .stopMotion ∨ s.place who = .stopSafety)
    (hasked : l'.asked = l.asked) (hreleases : l'.releases = l.releases) : Requested s' l' := by
  constructor
  · exact hfirmware ▸ h.aligned
  · intro who hwho
    rw [hfirmware]
    exact h.stops who (hplaces who hwho)
  · rw [hfirmware, hthrough, htokens, hasked, hreleases]
    exact h.tokens
  · rw [hfirmware, hasked, hreleases]
    exact h.releases

omit [Rounding] in
/-- A task of the harness that leaves its place is not about to notify for a stop. -/
lemma goto_stops {who : ℕ} {place : CallerAt} (hplace : place ≠ .stopMotion ∧ place ≠ .stopSafety)
    (other : ℕ) (h : (s.goto who place).place other = .stopMotion ∨
      (s.goto who place).place other = .stopSafety) :
    s.place other = .stopMotion ∨ s.place other = .stopSafety := by
  by_cases heq : other = who
  · subst heq
    have hgoto : (s.goto other place).place other = place := Function.update_self _ _ _
    rw [hgoto] at h
    exact absurd h (by simp [hplace.1, hplace.2])
  · have hgoto : (s.goto who place).place other = s.place other := Function.update_of_ne heq _ _
    rwa [hgoto] at h

omit [Rounding] in
/-- A task of the harness proceeds. -/
lemma Requested.proceed (h : Requested s l) (who : ℕ) :
    Requested (s.proceed who) (observeSteps (.proceed who : SteppedAction ε) s l) := by
  have hreleases : (observeSteps (.proceed who : SteppedAction ε) s l).releases = l.releases :=
    List.append_nil _
  -- the notification of a stop, while a stop is requested
  have hstopped : ∀ {t place}, s.firmware.pipeline.stopping = true →
      (observeSteps (.proceed who : SteppedAction ε) s l).asked = l.asked →
      Requested ((s.goto who place).giveTarget t)
        (observeSteps (.proceed who : SteppedAction ε) s l) := by
    intro t place hstop hasked
    refine ⟨h.aligned, fun _ _ => hstop, fun _ hrunning => ?_, ?_⟩
    · exact absurd (hrunning.symm.trans hstop) (by simp)
    · rw [hasked, hreleases]
      exact h.releases
  unfold Stepped.proceed
  cases hplace : s.place who with
  | outside =>
    exact h.goto rfl rfl rfl (fun _ hwho => hwho)
      (by simp [observeSteps, askedOf, hplace]) hreleases
  | owner t =>
    have hasked : (observeSteps (.proceed who : SteppedAction ε) s l).asked = l.asked := by
      simp [observeSteps, askedOf, hplace]
    dsimp only
    split_ifs
    · exact h.goto rfl rfl rfl (goto_stops (by simp)) hasked hreleases
    · exact h.goto rfl rfl rfl (goto_stops (by simp)) hasked hreleases
  | claim t =>
    exact h.goto rfl rfl rfl (goto_stops (s := s) (by simp))
      (by simp [observeSteps, askedOf, hplace]) hreleases
  | give t =>
    have hasked : (observeSteps (.proceed who : SteppedAction ε) s l).asked = l.asked ++ [t] := by
      simp [observeSteps, askedOf, hplace]
    refine h.of_le h.aligned id ?_ (fun _ => rfl) rfl ?_ ?_ hreleases
    · intro other hwho
      exact h.stops other (goto_stops (s := s) (by simp) other hwho)
    · intro t'
      rw [hasked, List.count_append]
      omega
    · intro t' _
      rw [hasked, List.count_append]
      by_cases heq : t' = t
      · subst heq
        have htokens : ((s.goto who (.take t')).giveTarget t').tokens t' = s.tokens t' + 1 :=
          Function.update_self _ _ _
        rw [htokens, List.count_singleton_self]
        omega
      · have htokens : ((s.goto who (.take t)).giveTarget t).tokens t' = s.tokens t' :=
          Function.update_of_ne heq _ _
        rw [htokens]
        omega
  | take t =>
    have hasked : (observeSteps (.proceed who : SteppedAction ε) s l).asked = l.asked := by
      simp [observeSteps, askedOf, hplace]
    dsimp only
    split_ifs
    · exact h.goto rfl rfl rfl (fun _ hwho => hwho) hasked hreleases
    · exact h.goto rfl rfl rfl (goto_stops (s := s) (by simp)) hasked hreleases
  | stopMotion =>
    exact hstopped (h.stops who (Or.inl hplace)) (by simp [observeSteps, askedOf, hplace])
  | stopSafety =>
    exact hstopped (h.stops who (Or.inr hplace)) (by simp [observeSteps, askedOf, hplace])

/-- **Step lemma.**  A step finishes a release only if it was asked for. -/
theorem Requested.step (h : Requested s l) (a : SteppedAction ε) :
    Requested (steppedStep driver a s) (observeSteps a s l) := by
  cases a with
  | task a =>
    have hother : a.target = none → a ≠ .requestStop →
        Requested { s with firmware := firmwareStep driver a s.firmware }
          (observeSteps (.task a) s l) := by
      intro htarget hstop
      have hsame : ∀ t, SameTurn t s.firmware (firmwareStep driver a s.firmware) := fun t =>
        sameTurn_step (by rw [htarget]; simp) s.firmware
      have hstopping : (firmwareStep driver a s.firmware).pipeline.stopping =
          s.firmware.pipeline.stopping := stopping_firmwareStep hstop s.firmware
      have hlog : observeSteps (.task a) s l = l := by
        simp [observeSteps, resultsOf, askedOf, releasesOf, htarget]
      rw [hlog]
      refine h.of_le (h.aligned.step a) (fun hs => hstopping.trans hs) ?_ (fun t => (hsame t).turn)
        rfl (fun _ => le_rfl) (fun _ _ => le_rfl) rfl
      intro who hwho
      exact hstopping.trans (h.stops who hwho)
    have hlog : ∀ {s' : Stepped δ} {releases : List Target},
        Requested s' { l with releases := l.releases ++ releases } →
        releases = releasesOf (.task a) s → Requested s' (observeSteps (.task a) s l) := by
      rintro s' releases hs' rfl
      have heq : observeSteps (.task a) s l =
          { l with releases := l.releases ++ releasesOf (.task a) s } := by
        simp [observeSteps, resultsOf, askedOf]
      rw [heq]
      exact hs'
    cases a with
    | motion now => exact hlog (h.target .motion now) rfl
    | safety now => exact hlog (h.target .safety now) rfl
    | requestStop =>
      have heq : observeSteps (.task .requestStop : SteppedAction ε) s l = l := by
        simp [observeSteps, resultsOf, askedOf, releasesOf, FirmwareAction.target]
      rw [heq]
      exact h
    | _ => exact hother rfl (by simp)
  | call who t =>
    have hasked : (observeSteps (.call who t : SteppedAction ε) s l).asked = l.asked :=
      List.append_nil _
    have hreleases : (observeSteps (.call who t : SteppedAction ε) s l).releases = l.releases :=
      List.append_nil _
    unfold steppedStep Stepped.call
    dsimp only
    split_ifs
    · exact h.goto rfl rfl rfl (goto_stops (by simp)) hasked hreleases
    · exact h.goto rfl rfl rfl (fun _ hwho => hwho) hasked hreleases
  | requestStop who =>
    have hasked : (observeSteps (.requestStop who : SteppedAction ε) s l).asked = l.asked :=
      List.append_nil _
    have hreleases : (observeSteps (.requestStop who : SteppedAction ε) s l).releases =
        l.releases := List.append_nil _
    unfold steppedStep
    dsimp only
    split_ifs
    · have hsame : ∀ t, SameTurn t s.firmware (firmwareStep driver .requestStop s.firmware) :=
        fun t => sameTurn_step (by simp [FirmwareAction.target]) s.firmware
      exact h.of_le (h.aligned.step _) (fun _ => rfl) (fun _ _ => rfl) (fun t => (hsame t).turn)
        rfl (fun t => by rw [hasked]) (fun t _ => by rw [hasked]; exact le_rfl) hreleases
    · exact h.goto rfl rfl rfl (fun _ hwho => hwho) hasked hreleases
  | proceed who => exact h.proceed who
  | expire who =>
    have hasked : (observeSteps (.expire who : SteppedAction ε) s l).asked = l.asked :=
      List.append_nil _
    have hreleases : (observeSteps (.expire who : SteppedAction ε) s l).releases = l.releases :=
      List.append_nil _
    unfold steppedStep Stepped.expire
    dsimp only
    cases s.place who with
    | take t => exact h.goto rfl rfl rfl (goto_stops (s := s) (by simp)) hasked hreleases
    | _ => exact h.goto rfl rfl rfl (fun _ hwho => hwho) hasked hreleases

end Requests

/-- **Requests.**  In every run, also with late notifications, other callers and stops, no target
finishes more releases than the calls have asked it for. -/
theorem releases_requested [Rounding] {δ ε : Type} (driver : InputDriver δ ε) (env : Environment)
    (input : δ) (as : List (SteppedAction ε)) (t : Target) :
    (stepLog driver env input as).releases.count t ≤
      (stepLog driver env input as).asked.count t := by
  have hstart : Requested (steppedInit env input) {} := by
    constructor
    · exact aligned_firmware driver env input []
    · exact fun who hwho => absurd hwho (by simp [steppedInit])
    · intro t _
      cases t <;> exact le_rfl
    · intro t
      cases t <;> exact le_rfl
  have hrequested : Requested (stepped driver env input as) (stepLog driver env input as) :=
    Machine.watch_invariant (P := fun _ _ => True) (I := Requested)
      (fun a s l h _ => h.step a) hstart (Machine.along_of_forall fun _ _ => trivial)
  exact (Nat.le_add_right _ _).trans (hrequested.releases t)

end MotionFirmware
