import MotionFirmware.Foundation.Ranking
import MotionFirmware.Rtos.Accounts
import MotionFirmware.Rtos.Conversation
import MotionFirmware.Rtos.Regular

/-!
# The watchdog

The Safety task refreshes the watchdog when every heartbeat is fresh.  Over a run this means: a
refresh is made exactly at the evaluations for which each of the three tasks has a heartbeat that
the clock shows as recent.  A task that stops beating starves the watchdog as soon as its last
heartbeat has aged, and until the clock has wrapped round to it.
-/

namespace MotionFirmware

/-- The times of the last heartbeats, after an action. -/
def observeBeats (a : Action) (w : World) (beats : TaskHealthId → Option ℕ) :
    TaskHealthId → Option ℕ :=
  match a with
  | .heartbeat id => Function.update beats id (some w.io.trueTime)
  | _ => beats

/-- The clock shows a heartbeat as no older than `HEALTH_MAXIMUM_AGE_MS`. -/
def recentBeat (now : ℕ) (beat : Option ℕ) : Bool :=
  beat.any fun t =>
    decide (WrappingClock.reading now - WrappingClock.reading t ≤ healthMaximumAgeMs)

/-- The Safety task evaluates while every task has a recent heartbeat. -/
def feeds (a : Action) (v : World × (TaskHealthId → Option ℕ)) : Bool :=
  match a with
  | .safety =>
    recentBeat v.1.io.trueTime (v.2 .motion) && recentBeat v.1.io.trueTime (v.2 .safety) &&
      recentBeat v.1.io.trueTime (v.2 .comms)
  | _ => false

variable {w : World} {beats : TaskHealthId → Option ℕ}

/-- The heartbeat records are those of the last heartbeats. -/
structure World.Beaten (w : World) (beats : TaskHealthId → Option ℕ) : Prop where
  seen : ∀ id, (w.accounts.health id).seen = (beats id).isSome
  last : ∀ id t, beats id = some t →
    (w.accounts.health id).lastMs = WrappingClock.reading t

/-- A heartbeat is fresh when the last one is recent. -/
lemma World.Beaten.fresh (h : w.Beaten beats) (id : TaskHealthId) :
    w.rt.fresh id w.io.platformTimeMs = recentBeat w.io.trueTime (beats id) := by
  have hseen : (w.rt.health id).seen = (beats id).isSome := h.seen id
  cases hbeat : beats id with
  | none =>
    rw [hbeat] at hseen
    simp [RuntimeData.fresh, taskHealthFresh, hseen, recentBeat]
  | some t =>
    have hlast : (w.rt.health id).lastMs = WrappingClock.reading t := h.last id t hbeat
    rw [hbeat] at hseen
    simp [RuntimeData.fresh, taskHealthFresh, hseen, hlast, recentBeat, Peripherals.platformTimeMs]

/-- Records that did not change. -/
lemma World.Beaten.of_health {w' : World} (h : w.Beaten beats)
    (hsame : w'.accounts.health = w.accounts.health) : w'.Beaten beats where
  seen id := by
    rw [hsame]
    exact h.seen id
  last id t ht := by
    rw [hsame]
    exact h.last id t ht

/-- A heartbeat is recorded with its time. -/
lemma World.Beaten.beat (h : w.Beaten beats) (id : TaskHealthId) :
    (runtimeHeartbeat w id).Beaten (Function.update beats id (some w.io.trueTime)) := by
  have hhealth : (runtimeHeartbeat w id).accounts.health =
      Function.update w.accounts.health id
        (taskHealthBeat (w.accounts.health id) w.io.platformTimeMs) := rfl
  constructor
  · intro other
    rw [hhealth]
    by_cases heq : other = id
    · subst heq
      simp only [Function.update_self]
      rfl
    · simp only [Function.update_of_ne heq]
      exact h.seen other
  · intro other t ht
    rw [hhealth]
    by_cases heq : other = id
    · subst heq
      simp only [Function.update_self, Option.some.injEq] at ht ⊢
      rw [← ht]
      rfl
    · simp only [Function.update_of_ne heq] at ht ⊢
      exact h.last other t ht

variable [Rounding]

/-- The times of the last heartbeats of a run. -/
def lastBeats (env : Environment) (as : List Action) : TaskHealthId → Option ℕ :=
  Machine.watch step observeBeats (runtimeInit env) (fun _ => none) as

/-- **Step lemma.**  Every action keeps the heartbeat records. -/
lemma World.Beaten.step (h : w.Beaten beats) (a : Action) :
    (step a w).Beaten (observeBeats a w beats) := by
  cases a with
  | motion received =>
    refine h.of_health ?_
    change (motionStep w received).accounts.health = _
    rw [accounts_motionStep]
    unfold motionAccounts
    cases w.task.phase with
    | receive i => cases received <;> rfl
    | _ => rfl
  | safety =>
    refine h.of_health ?_
    change (safetyTask w).accounts.health = _
    rw [accounts_safetyTask]
  | heartbeat id => exact h.beat id
  | request duty => exact h.of_health rfl

/-- **Step lemma.**  An action refreshes the watchdog when it feeds it. -/
lemma refreshes_step (h : w.Beaten beats) (a : Action) :
    (step a w).safety.watchdogRefreshes =
      w.safety.watchdogRefreshes + UInt32.ofNat (feeds a (w, beats)).toNat := by
  cases a with
  | motion received =>
    change (motionStep w received).accounts.watchdogRefreshes = _
    rw [accounts_motionStep]
    have hsame : (motionAccounts w received w.accounts).watchdogRefreshes =
        w.safety.watchdogRefreshes := by
      unfold motionAccounts
      cases w.task.phase with
      | receive i => cases received <;> rfl
      | _ => rfl
    rw [hsame]
    exact (UInt32.add_zero _).symm
  | safety =>
    change (safetyTask w).accounts.watchdogRefreshes = _
    rw [accounts_safetyTask]
    dsimp only
    have hfeeds : feeds .safety (w, beats) =
        decide (w.rt.unhealthyMask w.io.platformTimeMs = 0) := by
      rw [Bool.eq_iff_iff, decide_eq_true_eq, unhealthyMask_eq_zero_iff]
      simp only [feeds, ← h.fresh, Bool.and_eq_true]
      constructor
      · rintro ⟨⟨hmotion, hsafety⟩, hcomms⟩ id
        cases id <;> assumption
      · intro hfresh
        exact ⟨⟨hfresh .motion, hfresh .safety⟩, hfresh .comms⟩
    rw [hfeeds]
    by_cases hmask : w.rt.unhealthyMask w.io.platformTimeMs = 0
    · rw [if_pos hmask, decide_eq_true hmask]
      rfl
    · rw [if_neg hmask, decide_eq_false hmask]
      exact (UInt32.add_zero _).symm
  | heartbeat id => exact (UInt32.add_zero _).symm
  | request duty => exact (UInt32.add_zero _).symm

omit [Rounding] in
lemma beaten_runtimeInit (env : Environment) : (runtimeInit env).Beaten fun _ => none where
  seen _ := rfl
  last _ _ h := absurd h (by simp)

/-- The records of a run are those of its last heartbeats. -/
lemma beaten_runtime (env : Environment) (as : List Action) :
    (runtime env as).Beaten (lastBeats env as) :=
  Machine.watch_invariant (P := fun _ _ => True) (I := World.Beaten)
    (fun a _ _ h _ => h.step a) (beaten_runtimeInit env)
    (Machine.along_of_forall fun _ _ => trivial)

/-- **Watchdog refreshes.**  The counter of refreshes is the number of the evaluations of the Safety
task for which each of the three tasks had a recent heartbeat. -/
theorem watchdog_refreshes (env : Environment) (as : List Action) :
    (runtime env as).safety.watchdogRefreshes =
      UInt32.ofNat (Machine.count (Machine.watchStep step observeBeats) feeds
        (runtimeInit env, fun _ => none) as) := by
  have hkeep : ∀ a (v : World × (TaskHealthId → Option ℕ)), v.1.Beaten v.2 →
      (Machine.watchStep step observeBeats a v).1.Beaten
        (Machine.watchStep step observeBeats a v).2 := fun a _ h => h.step a
  have hcount := Machine.counter_run (fun v => v.1.safety.watchdogRefreshes) hkeep
    (fun a _ h => refreshes_step h a) (w := (runtimeInit env, fun _ => none))
    (beaten_runtimeInit env) as
  rw [Machine.run_watchStep_fst] at hcount
  exact hcount.trans (UInt32.zero_add _)

/-! ### A task that stops beating -/

omit [Rounding] in
/-- A heartbeat that has aged, and that the clock has not wrapped round to. -/
lemma not_recentBeat {now t : ℕ} (hlate : t + 150 < now) (hwrap : now < t + 2 ^ 32) :
    recentBeat now (some t) = false := by
  have hsub := WrappingClock.toNat_reading_sub (show t ≤ now by omega)
  rw [Nat.mod_eq_of_lt (by omega)] at hsub
  have hage : healthMaximumAgeMs.toNat = 150 := rfl
  refine decide_eq_false ?_
  rw [UInt32.le_iff_toNat_le, hsub, hage]
  omega

omit [Rounding] in
/-- An old heartbeat of one task keeps every evaluation from feeding the watchdog. -/
lemma feeds_of_not_recent {id : TaskHealthId}
    (h : recentBeat w.io.trueTime (beats id) = false) (a : Action) :
    feeds a (w, beats) = false := by
  cases a with
  | safety =>
    unfold feeds
    cases id <;> simp [h]
  | _ => rfl

/-- A run keeps its environment. -/
lemma env_runtime (env : Environment) (as : List Action) : (runtime env as).io.env = env :=
  runtime_invariant (I := fun v => v.io.env = env) env as rfl
    fun _ _ _ hop hv => hop.elapses.env.trans hv

/-- The clock of a run does not run backwards. -/
lemma trueTime_le_append {env : Environment} (hclock : Monotone env.clock) (as bs : List Action) :
    (runtime env as).io.trueTime ≤ (runtime env (as ++ bs)).io.trueTime := by
  have helapses : (runtime env as).Elapses (runtime env (as ++ bs)) := by
    unfold runtime
    rw [Machine.run_append]
    refine (Machine.run_invariant_of_forall
      (I := fun v => v.Regular ∧ (Machine.run step (runtimeInit env) as).Elapses v) ?_
      ⟨regular_runtime env as, .refl _⟩).2
    intro a v hv
    exact ⟨hv.1.step a, hv.2.trans (elapses_step hv.1 a)⟩
  refine helapses.trueTime_le ?_
  rw [env_runtime]
  exact hclock

/-- **Starvation.**  While no heartbeat of the task is recorded, and its last one has aged, nothing
feeds the watchdog. -/
theorem refreshes_of_silent {env : Environment} (hclock : Monotone env.clock)
    {as bs : List Action} {id : TaskHealthId} (hsilent : Action.heartbeat id ∉ bs)
    (hlate : ∀ t, lastBeats env as id = some t →
      t + 150 < (runtime env as).io.trueTime ∧ (runtime env (as ++ bs)).io.trueTime < t + 2 ^ 32) :
    (runtime env (as ++ bs)).safety.watchdogRefreshes =
      (runtime env as).safety.watchdogRefreshes := by
  induction bs generalizing as with
  | nil => rw [List.append_nil]
  | cons a bs ih =>
    have hrun : runtime env (as ++ [a]) = MotionFirmware.step a (runtime env as) :=
      Machine.run_append
    have happend : as ++ a :: bs = as ++ [a] ++ bs := by simp
    have hbeats : lastBeats env (as ++ [a]) id = lastBeats env as id := by
      have hne : a ≠ .heartbeat id := fun heq => hsilent (by simp [heq])
      unfold lastBeats
      rw [Machine.watch_append]
      change observeBeats a _ _ id = _
      unfold observeBeats
      cases a with
      | heartbeat other =>
        exact Function.update_of_ne (fun heq => hne (by rw [heq])) _ _
      | _ => rfl
    have hold : recentBeat (runtime env as).io.trueTime (lastBeats env as id) = false := by
      cases hlast : lastBeats env as id with
      | none => rfl
      | some t =>
        obtain ⟨hage, hwrap⟩ := hlate t hlast
        exact not_recentBeat hage ((trueTime_le_append hclock as (a :: bs)).trans_lt hwrap)
    have hfirst : (runtime env (as ++ [a])).safety.watchdogRefreshes =
        (runtime env as).safety.watchdogRefreshes := by
      rw [hrun, refreshes_step (beaten_runtime env as) a,
        feeds_of_not_recent hold a]
      exact UInt32.add_zero _
    rw [happend] at hlate ⊢
    rw [@ih (as ++ [a]) (fun h => hsilent (List.mem_cons_of_mem a h)) ?_, hfirst]
    intro t ht
    rw [hbeats] at ht
    obtain ⟨hage, hwrap⟩ := hlate t ht
    exact ⟨hage.trans_le (trueTime_le_append hclock as [a]), hwrap⟩

variable {δ ε : Type}

/-- **Watchdog starvation.**  A task of which no heartbeat is recorded starves the watchdog,
whatever the other tasks do: once its last heartbeat is older than `HEALTH_MAXIMUM_AGE_MS`, and
until the clock has wrapped round to it, the watchdog is not refreshed. -/
theorem watchdog_starved (driver : InputDriver δ ε) (env : Environment)
    (hclock : Monotone env.clock) (input : δ) (as bs : List (FirmwareAction ε)) (id : TaskHealthId)
    (hsilent : Machine.Along (firmwareStep driver) (fun a f => .heartbeat id ∉ worldLabels a f)
      (firmware driver env input as) bs)
    (hlate : ∀ t, lastBeats env (worldTrace driver env input as) id = some t →
      t + 150 < (firmware driver env input as).world.io.trueTime ∧
        (firmware driver env input (as ++ bs)).world.io.trueTime < t + 2 ^ 32) :
    (firmware driver env input (as ++ bs)).world.safety.watchdogRefreshes =
      (firmware driver env input as).world.safety.watchdogRefreshes := by
  have htrace : worldTrace driver env input (as ++ bs) = worldTrace driver env input as ++
      Machine.trace (firmwareStep driver) worldLabels (firmware driver env input as) bs :=
    Machine.trace_append
  have hnever : Action.heartbeat id ∉
      Machine.trace (firmwareStep driver) worldLabels (firmware driver env input as) bs :=
    Machine.notMem_trace hsilent
  rw [world_firmware, world_firmware, htrace] at hlate ⊢
  exact refreshes_of_silent hclock hnever hlate

/-- The clock jumps after the first evaluation. -/
def hungEnvironment : Environment where
  gpio _ := some {}
  rawCount _ := some 1000
  clock n := if n < 10 then n else 1000

/-- Every task beats, and the Safety task feeds the watchdog. -/
def fedOnce : List (FirmwareAction HostEvent) :=
  List.replicate 30 (.motion 0) ++ List.replicate 6 (.comms 0) ++ List.replicate 6 (.safety 0)

/-- Only the Safety task goes on. -/
def safetyAlone : List (FirmwareAction HostEvent) := List.replicate 5 (.safety 0)

/-- The host with the jumping clock. -/
def hungHost (as : List (FirmwareAction HostEvent)) : Firmware HostInput :=
  @firmware Binary32.rounding _ _ hostDriver hungEnvironment { script := [], active := true } as

omit [Rounding] in
/-- Communications hangs, and the evaluation that follows does not feed the watchdog. -/
theorem watchdog_starved_comms :
    (hungHost (fedOnce ++ safetyAlone)).world.safety.watchdogRefreshes = 1 := by
  have hclock : Monotone hungEnvironment.clock := by
    intro m n hmn
    simp only [hungEnvironment]
    split_ifs <;> omega
  have hlast : @lastBeats Binary32.rounding hungEnvironment (@worldTrace _ _ Binary32.rounding
      hostDriver hungEnvironment { script := [], active := true } fedOnce) .comms = some 7 := by
    decide +kernel
  have hstarved := @watchdog_starved Binary32.rounding _ _ hostDriver hungEnvironment hclock
    { script := [], active := true } fedOnce safetyAlone .comms (by decide +kernel) (by
      intro t ht
      rw [hlast, Option.some.injEq] at ht
      subst ht
      decide +kernel)
  unfold hungHost
  rw [hstarved]
  decide +kernel

end MotionFirmware
