import MotionFirmware.Foundation.Binary32
import MotionFirmware.Foundation.WrappingClock
import MotionFirmware.Safety.FaultRecord

/-!
# The no-motion detector

`safety_evaluate` carries the detector in a flag and in the time of the first qualifying
observation.  Over a history these two fields say since when every evaluation has qualified without
a reset in between.  The elapsed time is computed modulo `2 ^ 32`; it cannot skip the timeout,
because an evaluation that reaches it latches the state, and two evaluations are less than half a
wrap apart.
-/

namespace MotionFirmware

variable [Rounding] {s : SafetyManager} {c : Evaluation} {now source : UInt32} {code : FaultCode}
  {start : UInt32} {calls : List SafetyCall} {call : SafetyCall} {t time : ℕ}

/-! ### One evaluation -/

/-- The evaluation qualifies: after its other checks the state is `IDLE`, and duty is applied to an
axis that does not answer. -/
def qualifies (s : SafetyManager) (c : Evaluation) : Bool :=
  qualifying (checkHazards s c) c (stateAtContact s c)

/-- A qualifying evaluation has found the state in `IDLE`. -/
lemma idle_of_qualifies (h : qualifies s c = true) : s.state = .idle := by
  simp only [qualifies, qualifying, Bool.and_eq_true, beq_iff_eq] at h
  exact (clean_of_checkHazards h.1.1.1.1.1).state

omit [Rounding] in
/-- A trip does not touch the candidate. -/
lemma trip_candidate :
    (trip s code now source).candidate = s.candidate ∧
      (trip s code now source).candidateStartMs = s.candidateStartMs := by
  unfold trip
  dsimp only
  split_ifs <;> exact ⟨rfl, rfl⟩

/-- The start of the candidate that a qualifying evaluation sees. -/
lemma candidateStart_of_qualifies (h : qualifies s c = true) :
    candidateStart (checkHazards s c) c = if s.candidate then s.candidateStartMs else c.now := by
  have hidle : (checkHazards s c).state = .idle := by
    simp only [qualifies, qualifying, Bool.and_eq_true, beq_iff_eq] at h
    exact h.1.1.1.1.1
  rw [checkHazards_of_clean (clean_of_checkHazards hidle)]
  unfold candidateStart checkRecovery recordInputs
  split_ifs <;> rfl

/-- A qualifying evaluation leaves a candidate, and any other one leaves none. -/
lemma safetyEvaluate_candidate :
    (safetyEvaluate s c).candidate = qualifies s c ∧
      (qualifies s c = true → (safetyEvaluate s c).candidateStartMs =
        if s.candidate then s.candidateStartMs else c.now) := by
  have hstall : (safetyEvaluate s c).candidate =
      (checkStall (checkHazards s c) c (stateAtContact s c)).candidate ∧
      (safetyEvaluate s c).candidateStartMs =
        (checkStall (checkHazards s c) c (stateAtContact s c)).candidateStartMs := ⟨rfl, rfl⟩
  rw [hstall.1, hstall.2, checkStall]
  cases hq : qualifies s c with
  | false =>
    have hnot : ¬ qualifying (checkHazards s c) c (stateAtContact s c) = true := by
      rw [← qualifies, hq]
      exact nofun
    rw [if_neg hnot]
    exact ⟨rfl, nofun⟩
  | true =>
    have hqualifying : qualifying (checkHazards s c) c (stateAtContact s c) = true := hq
    rw [← candidateStart_of_qualifies hq, if_pos hqualifying]
    dsimp only
    split_ifs
    · exact ⟨trip_candidate.1, fun _ => trip_candidate.2⟩
    · exact ⟨rfl, fun _ => rfl⟩

/-- A qualifying evaluation that leaves the state in `IDLE` has not reached the timeout. -/
lemma elapsed_of_idle (hq : qualifies s c = true) (hidle : (safetyEvaluate s c).state = .idle) :
    c.now - (if s.candidate then s.candidateStartMs else c.now) < safetyStallTimeoutMs := by
  rw [← candidateStart_of_qualifies hq]
  by_contra hlate
  have hstalled : stalled s c = true := by
    rw [stalled, Bool.and_eq_true, decide_eq_true_eq]
    exact ⟨hq, UInt32.not_lt.mp hlate⟩
  exact (awaits_of_stalled hstalled).latched hidle

/-! ### Runs of qualifying evaluations -/

/-- The call does not interrupt a run of qualifying evaluations: an evaluation qualifies, and a
reset is refused. -/
def Sustains (call : SafetyCall) (s : SafetyManager) : Prop :=
  (∀ c time, call = .evaluate c time → qualifies s c = true) ∧ KeepsFault call s

/-- The history ends in a run of consecutive qualifying evaluations, without a successful reset
inside, whose first evaluation was made at the true time `t`. -/
def QualifiesSince (start : UInt32) (calls : List SafetyCall) (t : ℕ) : Prop :=
  ∃ before c after, calls = before ++ .evaluate c t :: after ∧
    qualifies ((safetyInit start).replay before) c = true ∧
    Machine.Along SafetyManager.apply Sustains
      ((safetyInit start).replay (before ++ [.evaluate c t])) after

/-- The true time of an evaluation. -/
def SafetyCall.evaluatedAt : SafetyCall → Option ℕ
  | .evaluate _ time => some time
  | _ => none

/-- Every evaluation reads the clock at its true time; true time does not run backwards, and at most
half a wrap passes between two consecutive evaluations. -/
structure Clocked (calls : List SafetyCall) : Prop where
  reading : ∀ c time, .evaluate c time ∈ calls → c.now = WrappingClock.reading time
  gaps : (calls.filterMap SafetyCall.evaluatedAt).IsChain fun t t' => t ≤ t' ∧ t' ≤ t + 2 ^ 31

omit [Rounding] in
/-- The beginning of a clocked history is clocked. -/
lemma Clocked.of_append {more : List SafetyCall} (h : Clocked (calls ++ more)) : Clocked calls := by
  refine ⟨fun c time hmem => h.reading c time (List.mem_append_left _ hmem), ?_⟩
  have hgaps := h.gaps
  rw [List.filterMap_append] at hgaps
  exact hgaps.left_of_append

/-- A run reaches past one more call when that call sustains it, or starts there. -/
lemma qualifiesSince_append :
    QualifiesSince start (calls ++ [call]) t ↔
      QualifiesSince start calls t ∧ Sustains call ((safetyInit start).replay calls) ∨
      ∃ c, call = .evaluate c t ∧ qualifies ((safetyInit start).replay calls) c = true := by
  constructor
  · rintro ⟨before, c, after, heq, hq, hafter⟩
    rcases List.eq_nil_or_concat' after with rfl | ⟨after, last, rfl⟩
    · obtain ⟨rfl, hcall⟩ := List.append_inj' heq rfl
      exact Or.inr ⟨c, List.singleton_inj.mp hcall, hq⟩
    · have hcut : calls ++ [call] = (before ++ .evaluate c t :: after) ++ [last] := by
        simpa using heq
      obtain ⟨rfl, hcall⟩ := List.append_inj' hcut rfl
      obtain rfl := List.singleton_inj.mp hcall
      obtain ⟨hbefore, hlast, -⟩ := Machine.along_append.mp hafter
      refine Or.inl ⟨⟨before, c, after, rfl, hq, hbefore⟩, ?_⟩
      have hreplay : ((safetyInit start).replay (before ++ [.evaluate c t])).replay after =
          (safetyInit start).replay (before ++ .evaluate c t :: after) := by
        simp
      rw [← hreplay]
      exact hlast
  · rintro (⟨⟨before, c, after, rfl, hq, hafter⟩, hcall⟩ | ⟨c, rfl, hq⟩)
    · refine ⟨before, c, after ++ [call], by simp, hq,
        Machine.along_append.mpr ⟨hafter, ?_, trivial⟩⟩
      have hreplay : ((safetyInit start).replay (before ++ [.evaluate c t])).replay after =
          (safetyInit start).replay (before ++ .evaluate c t :: after) := by
        simp
      rw [← hreplay] at hcall
      exact hcall
    · exact ⟨calls, c, [], rfl, hq, trivial⟩

/-- The first evaluation of a run is one of the history. -/
lemma QualifiesSince.mem (h : QualifiesSince start calls t) : ∃ c, .evaluate c t ∈ calls := by
  obtain ⟨before, c, after, rfl, -⟩ := h
  exact ⟨c, by simp⟩

/-! ### What the candidate records -/

/-- The candidate of the manager after a history: it is set exactly in a run of qualifying
evaluations, its time is that of the longest one, and in `IDLE` that run is shorter than the
timeout. -/
structure CandidateOf (start : UInt32) (calls : List SafetyCall) : Prop where
  set : ∀ t, QualifiesSince start calls t → ((safetyInit start).replay calls).candidate = true
  since : ((safetyInit start).replay calls).candidate = true → ∃ t, QualifiesSince start calls t ∧
    ((safetyInit start).replay calls).candidateStartMs = WrappingClock.reading t ∧
    (∀ t', QualifiesSince start calls t' → t ≤ t') ∧
    (((safetyInit start).replay calls).state = .idle →
      ∀ c time, .evaluate c time ∈ calls → time < t + 500)

omit [Rounding] in
/-- An earlier evaluation was made at an earlier time, and some earlier one at most half a wrap
ago. -/
lemma Clocked.evaluated_le {c' : Evaluation} (h : Clocked (calls ++ [.evaluate c time]))
    (hmem : .evaluate c' t ∈ calls) :
    t ≤ time ∧ ∃ c' last, .evaluate c' last ∈ calls ∧ last ≤ time ∧ time ≤ last + 2 ^ 31 := by
  have htime : t ∈ calls.filterMap SafetyCall.evaluatedAt :=
    List.mem_filterMap.mpr ⟨_, hmem, rfl⟩
  have hgaps := h.gaps
  rw [List.filterMap_append] at hgaps
  constructor
  · have hmono := List.isChain_iff_pairwise.mp (hgaps.imp fun _ _ hgap => hgap.1)
    exact (List.pairwise_append.mp hmono).2.2 t htime time (by simp [SafetyCall.evaluatedAt])
  · obtain ⟨last, hlast⟩ := Option.isSome_iff_exists.mp
      (List.getLast?_isSome.mpr (List.ne_nil_of_mem htime))
    obtain ⟨call, hcall, heval⟩ := List.mem_filterMap.mp (List.mem_of_getLast? hlast)
    obtain ⟨c', rfl⟩ : ∃ c', call = .evaluate c' last := by
      cases call with
      | evaluate c' t' =>
        obtain rfl := Option.some.inj heval
        exact ⟨c', rfl⟩
      | _ => exact absurd heval nofun
    have hgap := (List.isChain_append.mp hgaps).2.2 last hlast time (by
      simp [SafetyCall.evaluatedAt])
    exact ⟨c', last, hcall, hgap⟩

/-- A call that is no evaluation, resets nothing and does not touch the candidate keeps its
record. -/
lemma CandidateOf.of_same (h : CandidateOf start calls) (hcall : call.evaluatedAt = none)
    (hkeeps : KeepsFault call ((safetyInit start).replay calls))
    (hset : ((safetyInit start).replay (calls ++ [call])).candidate =
      ((safetyInit start).replay calls).candidate)
    (hstart : ((safetyInit start).replay (calls ++ [call])).candidateStartMs =
      ((safetyInit start).replay calls).candidateStartMs)
    (hstate : ((safetyInit start).replay (calls ++ [call])).state = .idle →
      ((safetyInit start).replay calls).state = .idle) : CandidateOf start (calls ++ [call]) := by
  have hne : ∀ c time, call ≠ .evaluate c time := by
    rintro c time rfl
    exact absurd hcall nofun
  have hsustains : Sustains call ((safetyInit start).replay calls) :=
    ⟨fun c time heq => absurd heq (hne c time), hkeeps⟩
  have hruns : ∀ t, QualifiesSince start (calls ++ [call]) t ↔ QualifiesSince start calls t := by
    intro t
    rw [qualifiesSince_append]
    constructor
    · rintro (⟨hrun, -⟩ | ⟨c, rfl, -⟩)
      · exact hrun
      · exact absurd rfl (hne c t)
    · exact fun hrun => Or.inl ⟨hrun, hsustains⟩
  refine ⟨fun t hrun => ?_, fun hcandidate => ?_⟩
  · rw [hset]
    exact h.set t ((hruns t).mp hrun)
  · rw [hset] at hcandidate
    obtain ⟨t, hrun, hreading, hfirst, hrecent⟩ := h.since hcandidate
    refine ⟨t, (hruns t).mpr hrun, hstart.trans hreading, fun t' hrun' => ?_, ?_⟩
    · exact hfirst t' ((hruns t').mp hrun')
    · intro hidle c time hmem
      rcases List.mem_append.mp hmem with hold | hlast
      · exact hrecent (hstate hidle) c time hold
      · exact absurd (List.mem_singleton.mp hlast).symm (hne c time)

/-- An evaluation extends the run, starts one, or ends it. -/
lemma CandidateOf.evaluate (h : CandidateOf start calls)
    (hclock : Clocked (calls ++ [.evaluate c time])) :
    CandidateOf start (calls ++ [.evaluate c time]) := by
  set s := (safetyInit start).replay calls with hs
  have hlast : (safetyInit start).replay (calls ++ [.evaluate c time]) = safetyEvaluate s c := by
    rw [SafetyManager.replay_append]
    rfl
  have hruns : ∀ t, QualifiesSince start (calls ++ [.evaluate c time]) t ↔
      qualifies s c = true ∧ (QualifiesSince start calls t ∨ t = time) := by
    intro t
    rw [qualifiesSince_append]
    constructor
    · rintro (⟨hrun, hsustains⟩ | ⟨c', heq, hq⟩)
      · exact ⟨hsustains.1 c time rfl, Or.inl hrun⟩
      · obtain ⟨rfl, rfl⟩ := SafetyCall.evaluate.inj heq
        exact ⟨hq, Or.inr rfl⟩
    · rintro ⟨hq, hrun | rfl⟩
      · refine Or.inl ⟨hrun, fun c' t' heq => ?_, nofun⟩
        obtain ⟨rfl, rfl⟩ := SafetyCall.evaluate.inj heq
        exact hq
      · exact Or.inr ⟨c, rfl, hq⟩
  have hnow : c.now = WrappingClock.reading time := hclock.reading c time (by simp)
  refine ⟨fun t hrun => ?_, fun hcandidate => ?_⟩
  · rw [hlast, safetyEvaluate_candidate.1]
    exact ((hruns t).mp hrun).1
  · rw [hlast, safetyEvaluate_candidate.1] at hcandidate
    have hstart := safetyEvaluate_candidate.2 hcandidate
    rw [hlast]
    cases hset : s.candidate with
    | false =>
      -- the run starts here
      rw [hset, if_neg nofun, hnow] at hstart
      refine ⟨time, (hruns time).mpr ⟨hcandidate, Or.inr rfl⟩, hstart, fun t hrun => ?_, ?_⟩
      · rcases ((hruns t).mp hrun).2 with hold | rfl
        · exact absurd ((h.set t hold).symm.trans hset) nofun
        · exact le_rfl
      · intro _ c' t' hmem
        rcases List.mem_append.mp hmem with hold | hnew
        · have := (hclock.evaluated_le hold).1
          omega
        · obtain ⟨rfl, rfl⟩ := SafetyCall.evaluate.inj (List.mem_singleton.mp hnew)
          omega
    | true =>
      -- the run goes on; its last evaluation is recent, so the elapsed time has not wrapped
      obtain ⟨t, hrun, hreading, hfirst, hrecent⟩ := h.since hset
      rw [hset, if_pos rfl] at hstart
      obtain ⟨c₁, hmem⟩ := hrun.mem
      obtain ⟨hle, c₂, last, hlastmem, -, hgap⟩ := hclock.evaluated_le hmem
      have hidle := idle_of_qualifies hcandidate
      have hnear := hrecent hidle c₂ last hlastmem
      refine ⟨t, (hruns t).mpr ⟨hcandidate, Or.inl hrun⟩, hstart.trans hreading, ?_, ?_⟩
      · intro t' hrun'
        rcases ((hruns t').mp hrun').2 with hold | rfl
        · exact hfirst t' hold
        · exact hle
      · intro hstill c' t' hmem'
        rcases List.mem_append.mp hmem' with hold | hnew
        · exact hrecent hidle c' t' hold
        · obtain ⟨rfl, rfl⟩ := SafetyCall.evaluate.inj (List.mem_singleton.mp hnew)
          have helapsed := elapsed_of_idle hcandidate hstill
          rw [hset, if_pos rfl, hreading, hnow, UInt32.lt_iff_toNat_lt,
            WrappingClock.toNat_reading_sub hle] at helapsed
          have htimeout : safetyStallTimeoutMs.toNat = 500 := rfl
          omega

/-- **The candidate of a history.** -/
theorem candidateOf_history (start : UInt32) (hclock : Clocked calls) :
    CandidateOf start calls := by
  induction calls using List.reverseRecOn with
  | nil =>
    refine ⟨fun t hrun => ?_, (fun h => by cases h)⟩
    obtain ⟨c, hmem⟩ := hrun.mem
    exact absurd hmem List.not_mem_nil
  | append_singleton calls call ih =>
    have h := ih hclock.of_append
    have hlast : (safetyInit start).replay (calls ++ [call]) =
        SafetyManager.apply call ((safetyInit start).replay calls) := by
      rw [SafetyManager.replay_append]
      rfl
    cases call with
    | evaluate c time => exact h.evaluate hclock
    | reset =>
      cases hreset : safetyReset ((safetyInit start).replay calls) with
      | none =>
        have hsame : (safetyInit start).replay (calls ++ [.reset]) =
            (safetyInit start).replay calls := by
          simp [hlast, SafetyManager.apply, hreset]
        have hkeeps : KeepsFault .reset ((safetyInit start).replay calls) := by
          intro _
          rw [safetyResetCall_eq, hreset]
        exact h.of_same rfl hkeeps (by rw [hsame]) (by rw [hsame]) (by rw [hsame]; exact id)
      | some s' =>
        obtain ⟨-, rfl⟩ := safetyReset_eq_some.mp hreset
        refine ⟨fun t hrun => ?_, fun hcandidate => ?_⟩
        · rcases qualifiesSince_append.mp hrun with ⟨-, -, hkeeps⟩ | ⟨c, heq, -⟩
          · have hrefused := hkeeps rfl
            rw [safetyResetCall_eq, hreset] at hrefused
            exact absurd hrefused (by simp)
          · exact absurd heq (by simp)
        · rw [hlast] at hcandidate
          simp [SafetyManager.apply, hreset, SafetyManager.cleared] at hcandidate
    | estop now =>
      refine h.of_same rfl (fun heq => absurd heq (by simp)) ?_ ?_ ?_ <;> rw [hlast]
      · rfl
      · rfl
      · (intro h; cases h)
    | internalFault now =>
      refine h.of_same rfl (fun heq => absurd heq (by simp)) ?_ ?_ ?_ <;> rw [hlast]
      · exact trip_candidate.1
      · exact trip_candidate.2
      · exact fun hidle => absurd hidle trip_state_ne_idle
    | homingTimeout now =>
      refine h.of_same rfl (fun heq => absurd heq (by simp)) ?_ ?_ ?_ <;> rw [hlast]
      · exact trip_candidate.1
      · exact trip_candidate.2
      · exact fun hidle => absurd hidle trip_state_ne_idle
    | grantContact =>
      refine h.of_same rfl (fun heq => absurd heq (by simp)) ?_ ?_ ?_ <;> rw [hlast]
      · rfl
      · rfl
      · exact id

/-! ### The detector -/

/-- **The detector** trips in exactly those evaluations that end a qualifying run of at least
500 ms. -/
theorem stalled_iff (start : UInt32) (hclock : Clocked (calls ++ [.evaluate c time])) :
    stalled ((safetyInit start).replay calls) c = true ↔
      qualifies ((safetyInit start).replay calls) c = true ∧
        ∃ t, QualifiesSince start calls t ∧ t + 500 ≤ time := by
  have hcandidate := candidateOf_history start hclock.of_append
  set s := (safetyInit start).replay calls with hs
  have hnow : c.now = WrappingClock.reading time := hclock.reading c time (by simp)
  have htimeout : safetyStallTimeoutMs.toNat = 500 := rfl
  have hstalled : stalled s c = true ↔ qualifies s c = true ∧ safetyStallTimeoutMs ≤
      c.now - candidateStart (checkHazards s c) c := by
    rw [stalled, Bool.and_eq_true, decide_eq_true_eq]
    rfl
  rw [hstalled]
  refine and_congr_right fun hq => ?_
  rw [candidateStart_of_qualifies hq]
  cases hset : s.candidate with
  | false =>
    have hzero : ¬ safetyStallTimeoutMs ≤ c.now - c.now := by
      rw [UInt32.sub_self]
      decide
    refine iff_of_false hzero ?_
    rintro ⟨t, hrun, -⟩
    exact absurd ((hcandidate.set t hrun).symm.trans hset) (by decide)
  | true =>
    obtain ⟨t, hrun, hreading, hfirst, hrecent⟩ := hcandidate.since hset
    obtain ⟨c₁, hmem⟩ := hrun.mem
    obtain ⟨hle, c₂, last, hlastmem, -, hgap⟩ := hclock.evaluated_le hmem
    have hnear := hrecent (idle_of_qualifies hq) c₂ last hlastmem
    rw [if_pos rfl, hreading, hnow, UInt32.le_iff_toNat_le, WrappingClock.toNat_reading_sub hle,
      htimeout]
    constructor
    · intro hlong
      exact ⟨t, hrun, by omega⟩
    · rintro ⟨t', hrun', hlong⟩
      have := hfirst t' hrun'
      omega

/-- A latched manager keeps the position of its no-motion fault until a reset succeeds. -/
lemma faultPosition_of_latched {position : Int32} (hposition : s.faultPosition = position)
    (hlatched : s.state ≠ .idle) (hcalls : Machine.Along SafetyManager.apply KeepsFault s calls) :
    (s.replay calls).faultPosition = position := by
  have hkept : ∀ c, Kept c fun s => s.state ≠ .idle ∧ s.faultPosition = position := fun c =>
    { trip := fun _ _ _ hs _ => ⟨trip_state_ne_idle, trip_faultPosition.trans hs.2⟩
      estop := fun _ hs => ⟨nofun, hs.2⟩
      internal := fun _ _ hs => hs
      release := fun _ hs => hs
      recovery := fun _ hs _ => hs
      candidate := fun _ _ _ _ hs => hs
      stall := fun _ hs hidle => absurd hidle hs.1
      condition := fun _ hs => hs }
  refine (Machine.run_invariant (I := fun s => s.state ≠ .idle ∧ s.faultPosition = position)
    (fun call s hs hcall => ?_) ⟨hlatched, hposition⟩ hcalls).2
  cases call with
  | evaluate c => exact (hkept c).safetyEvaluate hs
  | estop => exact ⟨nofun, hs.2⟩
  | internalFault => exact ⟨trip_state_ne_idle, trip_faultPosition.trans hs.2⟩
  | homingTimeout => exact ⟨trip_state_ne_idle, trip_faultPosition.trans hs.2⟩
  | reset =>
    have hrefused := hcall rfl
    rw [safetyResetCall_eq] at hrefused
    cases hreset : safetyReset s with
    | none => simpa [SafetyManager.apply, hreset] using hs
    | some s' => simp [hreset] at hrefused
  | grantContact => exact hs

/-- **The no-motion detector.**  In every history with at most half a wrap between evaluations, an
evaluation trips the detector exactly when it ends a run of consecutive qualifying evaluations,
without a successful reset inside, whose first evaluation is at least 500 ms earlier; the position
it records stays until a reset succeeds. -/
theorem no_motion_exact (start : UInt32) (calls : List SafetyCall) (c : Evaluation) (time : ℕ)
    (hclock : Clocked (calls ++ [.evaluate c time])) :
    (stalled ((safetyInit start).replay calls) c = true ↔
      qualifies ((safetyInit start).replay calls) c = true ∧
        ∃ t, QualifiesSince start calls t ∧ t + 500 ≤ time) ∧
    (stalled ((safetyInit start).replay calls) c = true → ∀ after,
      Machine.Along SafetyManager.apply KeepsFault
        ((safetyInit start).replay (calls ++ [.evaluate c time])) after →
      ((safetyInit start).replay (calls ++ .evaluate c time :: after)).faultPosition =
        c.motion.position) := by
  refine ⟨stalled_iff start hclock, fun hstalled after hafter => ?_⟩
  have hawaits := awaits_of_stalled hstalled
  rw [SafetyManager.replay_append, SafetyManager.replay_cons, SafetyManager.replay_nil] at hafter
  rw [SafetyManager.replay_append, SafetyManager.replay_cons]
  exact faultPosition_of_latched hawaits.position hawaits.latched hafter

/-- An evaluation of an axis under full duty whose encoder stands still. -/
def stillEvaluation (time : ℕ) : Evaluation where
  now := WrappingClock.reading time
  inputs := {}
  valid := true
  motion := { state := .moving, feedbackValid := true }
  pwm := 1
  unhealthyMask := 0

omit [Rounding] in
/-- Two such evaluations 500 ms apart trip the detector. -/
theorem no_motion_exact_still :
    @stalled Binary32.rounding (@SafetyManager.replay Binary32.rounding (safetyInit 0)
      [.evaluate (stillEvaluation 0) 0]) (stillEvaluation 500) = true := by
  have hclock : Clocked
      ([.evaluate (stillEvaluation 0) 0] ++ [.evaluate (stillEvaluation 500) 500]) := by
    refine ⟨fun c time hmem => ?_, by decide⟩
    simp only [List.cons_append, List.nil_append, List.mem_cons, SafetyCall.evaluate.injEq,
      List.not_mem_nil, or_false] at hmem
    rcases hmem with ⟨rfl, rfl⟩ | ⟨rfl, rfl⟩ <;> rfl
  refine (@no_motion_exact Binary32.rounding 0 [.evaluate (stillEvaluation 0) 0]
    (stillEvaluation 500) 500 hclock).1.mpr ⟨by decide +kernel, 0, ?_, by decide⟩
  exact ⟨[], stillEvaluation 0, [], rfl, by decide +kernel, trivial⟩

end MotionFirmware
