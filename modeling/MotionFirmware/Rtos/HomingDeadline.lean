import MotionFirmware.Rtos.RecordedCalls
import MotionFirmware.Rtos.Reference

/-!
# The deadline of a homing attempt

An accepted `HOME` records the time of its acceptance; its control updates compare that time with
the time that their release has read before the sample and the commands.  The release in which the
attempt is accepted has read its time first, so the clock may have ticked in between, and then the
unsigned difference of that release has passed the deadline already.  Apart from that a timeout is
never early.
-/

namespace MotionFirmware

variable [Rounding] {k : OperationKind} {w w' : World} {a : Action}

/-! ### The time of acceptance -/

/-- A `HOME` is accepted from `IDLE` only. -/
lemma state_of_acceptsHome (h : Accepts (· == .home) a w) : w.motion.data.state = .idle := by
  obtain ⟨command, -, htype, haccepted⟩ := h
  have hhome : command.type = .home := by simpa using htype
  unfold runtimeSafetyCommand at haccepted
  rw [if_neg (by simp [hhome]), if_neg (by simp [hhome]), if_neg (by simp [hhome])] at haccepted
  split_ifs at haccepted with hclosed hstop
  · exact absurd (hhome.symm.trans hstop) nofun
  · have hbegun : (homingBegin w.afterTime.toAxis w.io.platformTimeMs).1 = .accepted := haccepted
    exact (homingBegin_accepted hbegun).1

/-- A controller that a step leaves in `HOMING` carries the time at which the step has accepted the
attempt, or the attempt was running and has kept its time. -/
lemma startedMs_step (hreg : w.Regular) (hfresh : w.Fresh)
    (hhome : (step a w).motion.data.state = .homing) :
    (Accepts (· == .home) a w ∧
      (step a w).motion.data.homing.startedMs = w.io.platformTimeMs) ∨
    (¬ Accepts (· == .home) a w ∧ w.motion.data.state = .homing ∧
      (step a w).motion.data.homing.startedMs = w.motion.data.homing.startedMs) := by
  have hinv : ((step a w).motion.data.state = .homing →
      (Accepts (· == .home) a w ∧
        (step a w).motion.data.homing.startedMs = w.io.platformTimeMs) ∨
      (w.motion.data.state = .homing ∧
        (step a w).motion.data.homing.startedMs = w.motion.data.homing.startedMs)) ∧
      (step a w).safety.Settled := by
    refine (operations_step hreg a).invariant
      (I := fun v => (v.motion.data.state = .homing →
        (Accepts (· == .home) a w ∧ v.motion.data.homing.startedMs = w.io.platformTimeMs) ∨
        (w.motion.data.state = .homing ∧
          v.motion.data.homing.startedMs = w.motion.data.homing.startedMs)) ∧ v.safety.Settled)
      ?_ ⟨fun h => Or.inr ⟨h, rfl⟩, hreg.settled⟩
    rintro k v v' hk hop ⟨hv, hs⟩
    refine ⟨fun hhome' => ?_, hop.settled hs⟩
    by_cases hnew : ∃ now, k = .home now
    · obtain ⟨now, rfl⟩ := hnew
      obtain ⟨haccepts, rfl⟩ := hk
      cases hop with
      | home hidle h =>
        obtain ⟨-, -, -, heq⟩ := homingBegin_accepted h
        rw [heq]
        exact Or.inl ⟨haccepts, rfl⟩
    · push Not at hnew
      have hcomplete : k ≠ .complete := by
        rintro rfl
        cases hop
        exact absurd hhome' nofun
      have hsame := hop.sameAttempt hnew hcomplete (fresh_of_performs hfresh hk)
      rcases hop.state hs with heq | ⟨⟨now, rfl⟩, -⟩ | ⟨-, h⟩ | h | h | h | h
      · rw [hsame.homing.startedMs]
        exact hv (heq ▸ hhome')
      · exact absurd rfl (hnew now)
      all_goals exact absurd (hhome'.symm.trans h) nofun
  by_cases haccepts : Accepts (· == .home) a w
  · refine Or.inl ⟨haccepts, ?_⟩
    rcases hinv.1 hhome with h | h
    · exact h.2
    · exact absurd (h.1.symm.trans (state_of_acceptsHome haccepts)) nofun
  · rcases hinv.1 hhome with h | h
    · exact absurd h.1 haccepts
    · exact Or.inr ⟨haccepts, h⟩

/-- The true times of two events of a run. -/
structure Times where
  /-- The latest acceptance of a `HOME`. -/
  accepted : ℕ := 0
  /-- The latest reading of `now_ms`. -/
  release : ℕ := 0

/-- The times of a run, as an observer. -/
def observeTimes (a : Action) (w : World) (t : Times) : Times where
  accepted := if Accepts (· == .home) a w then w.io.trueTime else t.accepted
  release :=
    match a, w.task.phase with
    | .motion _, .clock => w.io.trueTime
    | _, _ => t.release

/-- The times of a run. -/
def times (env : Environment) (as : List Action) : Times :=
  Machine.watch step observeTimes (runtimeInit env) {} as

/-- The time of the release and the time of a running attempt are readings of past times. -/
structure World.Timed (w : World) (t : Times) : Prop where
  nowMs : w.task.nowMs = WrappingClock.reading t.release
  startedMs : w.motion.data.state = .homing →
    w.motion.data.homing.startedMs = WrappingClock.reading t.accepted
  release_le : t.release ≤ w.io.trueTime
  accepted_le : t.accepted ≤ w.io.trueTime

/-- The time of the release is observed where the Motion task reads it. -/
lemma observeTimes_release (a : Action) (w : World) (t : Times) :
    (∃ r, a = .motion r ∧ w.task.phase = .clock ∧
      (observeTimes a w t).release = w.io.trueTime) ∨
    (∀ r, a = .motion r → w.task.phase ≠ .clock) ∧ (observeTimes a w t).release = t.release := by
  unfold observeTimes
  dsimp only
  split
  next r hphase => exact Or.inl ⟨r, rfl, hphase, rfl⟩
  next hother => exact Or.inr ⟨hother, rfl⟩

lemma observeTimes_accepted (a : Action) (w : World) (t : Times) :
    (observeTimes a w t).accepted =
      if Accepts (· == .home) a w then w.io.trueTime else t.accepted := rfl

/-- The observed time of the release is the one that the Motion task has read. -/
lemma nowMs_step {t : Times} (h : w.task.nowMs = WrappingClock.reading t.release) :
    (step a w).task.nowMs = WrappingClock.reading (observeTimes a w t).release := by
  rcases observeTimes_release a w t with ⟨r, rfl, hphase, hrelease⟩ | ⟨hother, hrelease⟩
  · have hstep : step (.motion r) w = taskClock w := by
      simp only [step, motionStep, hphase]
    rw [hrelease, hstep]
    rfl
  · rw [hrelease, ← h]
    by_cases hmotion : ∀ r, a ≠ .motion r
    · rw [(step_other hmotion).1]
    · push Not at hmotion
      obtain ⟨r, rfl⟩ := hmotion
      exact ((motionStep_task w r).1 (hother r rfl)).1

/-- **Step lemma.**  Every step keeps the observed times. -/
theorem timed_step (hreg : w.Regular) (hfresh : w.Fresh) (hclock : Monotone w.io.env.clock)
    {t : Times} (hw : w.Timed t) : (step a w).Timed (observeTimes a w t) := by
  have hle := (elapses_step hreg a).trueTime_le hclock
  refine ⟨nowMs_step hw.nowMs, fun hhome => ?_, ?_, ?_⟩
  · rw [observeTimes_accepted]
    rcases startedMs_step hreg hfresh hhome with ⟨haccepts, heq⟩ | ⟨hnot, hbefore, heq⟩
    · rw [heq, if_pos haccepts]
      rfl
    · rw [heq, if_neg hnot]
      exact hw.startedMs hbefore
  · refine le_trans ?_ hle
    rcases observeTimes_release a w t with ⟨-, -, -, hrelease⟩ | ⟨-, hrelease⟩
    · exact hrelease.le
    · exact hrelease.le.trans hw.release_le
  · refine le_trans ?_ hle
    rw [observeTimes_accepted]
    split_ifs
    · exact le_rfl
    · exact hw.accepted_le

/-! ### Which steps raise a timeout -/

/-- The step raises a homing timeout: it calls `safety_homing_timeout`, it leaves the fault active,
or it records the outcome. -/
def RaisesTimeout (a : Action) (w : World) : Prop :=
  (∃ new now, (step a w).calls = w.calls ++ new ∧ SafetyCall.homingTimeout now ∈ new) ∨
  (w.safety.faults.active.code ≠ .homingTimeout ∧
    (step a w).safety.faults.active.code = .homingTimeout) ∨
  (w.motion.data.homing.result ≠ .timeout ∧ (step a w).motion.data.homing.result = .timeout)

omit [Rounding] in
/-- Closing a record with another outcome does not lead to the given one. -/
lemma HomingSnapshot.abort_ne {h : HomingSnapshot} {r q : HomingResult} (hr : r ≠ q)
    (hh : h.result ≠ q) : (h.abort r).result ≠ q := by
  unfold HomingSnapshot.abort
  split_ifs
  · exact hr
  · exact hh

omit [Rounding] in
/-- Adopting a latch leads to an outcome of its own only. -/
lemma result_ne_runtimeSafetySync {q : HomingResult} (hq : ∀ state, latchResult state ≠ q)
    (hw : w.motion.data.homing.result ≠ q) :
    (runtimeSafetySync w).motion.data.homing.result ≠ q := by
  by_cases hidle : w.safety.state = .idle
  · rwa [runtimeSafetySync_of_idle hidle]
  · rw [runtimeSafetySync_homing hidle]
    split_ifs
    · exact HomingSnapshot.abort_ne (hq _) hw
    · exact hw

omit [Rounding] in
/-- The outcome of an attempt that a latch interrupts. -/
lemma latchResult_cases (state : AppState) :
    latchResult state = .estopped ∨ latchResult state = .faulted := by
  unfold latchResult
  split_ifs
  · exact Or.inl rfl
  · exact Or.inr rfl

/-- **Outcomes.**  Only an update that finds the deadline passed records a timeout, and only
`motion_init` forgets that there has been an attempt. -/
lemma Operation.result_ne {q : HomingResult} (h : Operation k w w')
    (hq : q = .none ∧ k ≠ .configure ∨ q = .timeout ∧ k ≠ .expire)
    (hw : w.motion.data.homing.result ≠ q) : w'.motion.data.homing.result ≠ q := by
  have hother : .estopped ≠ q ∧ .faulted ≠ q ∧ .stopped ≠ q ∧ .running ≠ q ∧ .complete ≠ q := by
    rcases hq with ⟨rfl, -⟩ | ⟨rfl, -⟩ <;> decide
  have hlatch : ∀ state, latchResult state ≠ q := by
    intro state
    rcases latchResult_cases state with h | h <;> rw [h]
    · exact hother.1
    · exact hother.2.1
  cases h with
  | bookkeeping h => rwa [h.motion]
  | configure h =>
    obtain ⟨-, pid, -, rfl⟩ := motionInit_some h
    rcases hq with ⟨-, hk⟩ | ⟨rfl, -⟩
    · exact absurd rfl hk
    · exact nofun
  | sample _ dt =>
    rcases motionSample_cases w.toAxis dt with ⟨y, hframe, -, heq⟩ | ⟨count, -, -, heq⟩
    · rwa [heq, hframe.fail.homing]
    · rwa [heq]
  | evaluate => simpa using hw
  | sync => exact result_ne_runtimeSafetySync hlatch hw
  | estop => simpa using hw
  | internalFault => simpa using hw
  | stopHoming => exact HomingSnapshot.abort_ne hother.2.2.1 hw
  | home hidle h =>
    obtain ⟨-, -, -, heq⟩ := homingBegin_accepted h
    rw [heq]
    exact hother.2.2.2.1
  | halt =>
    rw [(halt_keeps w.motion).homing]
    exact hw
  | @drive _ dt =>
    have hupdated := (updated_keeps w.motion).homing
    rcases motionUpdate_cases w.toAxis dt with ⟨y, hframe, -, heq⟩ | ⟨-, heq⟩ |
      ⟨out, pid, -, -, heq⟩
    · rwa [heq, hframe.fail.homing]
    · rw [heq]
      exact hupdated ▸ hw
    · rw [heq]
      exact hupdated ▸ hw
  | seek _ hsame => rwa [hsame.result]
  | expire =>
    rcases hq with ⟨rfl, -⟩ | ⟨-, hk⟩
    · refine result_ne_runtimeSafetySync hlatch ?_
      rw [raiseTimeout_motion]
      exact HomingSnapshot.abort_ne nofun hw
    · exact absurd rfl hk
  | complete => exact hother.2.2.2.2
  | abort => exact HomingSnapshot.abort_ne hother.2.1 hw
  | _ => exact hw

/-- Only an update that finds the deadline passed records a timeout. -/
lemma Operation.result_ne_timeout (h : Operation k w w') (hk : k ≠ .expire)
    (hw : w.motion.data.homing.result ≠ .timeout) : w'.motion.data.homing.result ≠ .timeout :=
  h.result_ne (Or.inr ⟨rfl, hk⟩) hw

/-- A step that makes the fault of a homing timeout active calls `safety_homing_timeout`. -/
lemma exists_call_of_active {start : UInt32} (hreg : w.Regular) (hrec : w.Recorded start)
    (hbefore : w.safety.faults.active.code ≠ .homingTimeout)
    (hafter : (step a w).safety.faults.active.code = .homingTimeout) :
    ∃ new now, (step a w).calls = w.calls ++ new ∧ SafetyCall.homingTimeout now ∈ new := by
  have hrec' : (step a w).Recorded start :=
    (operations_step hreg a).invariant (fun _ _ _ _ hop hv => hop.recorded hv) hrec
  obtain ⟨new, hnew, -⟩ := calls_step hreg a
  have hmanager : (step a w).safety.faults.active.code =
      (w.safety.core.replay new).faults.active.code := by
    have hcore := hrec'.core
    rw [hnew, SafetyManager.replay_append, ← hrec.core] at hcore
    exact congrArg (fun s => s.faults.active.code) hcore
  rw [hmanager] at hafter
  rcases active_history w.safety.core new (by rw [hafter]; exact nofun) with hkeep | ⟨call, hmem, h⟩
  · exact absurd (hkeep.symm.trans hafter) hbefore
  · rw [hafter] at h
    cases call with
    | homingTimeout now => exact ⟨new, now, hnew, hmem⟩
    | _ => exact absurd h nofun

/-- Every timeout is raised by an update that finds the deadline passed. -/
theorem expiresHome_of_raisesTimeout {start : UInt32} (hreg : w.Regular) (hrec : w.Recorded start)
    (h : RaisesTimeout a w) : ExpiresHome a w := by
  have hcall : (∃ new now, (step a w).calls = w.calls ++ new ∧
      SafetyCall.homingTimeout now ∈ new) → ExpiresHome a w := by
    rintro ⟨new, now, hnew, hmem⟩
    obtain ⟨new', hnew', hall⟩ := calls_step hreg a
    obtain rfl := List.append_cancel_left (hnew.symm.trans hnew')
    obtain ⟨k, v, hk, hrecords⟩ := hall _ hmem
    cases k with
    | expire => exact hk.1
    | _ => exact absurd hrecords nofun
  rcases h with h | ⟨hbefore, hafter⟩ | ⟨hbefore, hafter⟩
  · exact hcall h
  · exact hcall (exists_call_of_active hreg hrec hbefore hafter)
  · by_contra hnot
    refine absurd hafter ((operations_step hreg a).invariant
      (I := fun v => v.motion.data.homing.result ≠ .timeout) (fun k v v' hk hop hv => ?_) hbefore)
    refine hop.result_ne_timeout ?_ hv
    rintro rfl
    exact hnot hk.1

/-! ### Attempts that are accepted in time -/

/-- The step accepts a `HOME` although the clock has left the time of the release behind, so far
that their unsigned difference has passed the deadline. -/
def StartsLate (a : Action) (w : World) : Prop :=
  Accepts (· == .home) a w ∧ homingTimeoutMs ≤ w.task.nowMs - w.io.platformTimeMs

instance (a : Action) (w : World) : Decidable (StartsLate a w) :=
  inferInstanceAs (Decidable (_ ∧ _))

/-- An attempt whose deadline has passed was accepted before the time of the release. -/
def World.Punctual (w : World) (t : Times) : Prop :=
  w.motion.data.state = .homing →
    homingTimeoutMs ≤ w.task.nowMs - w.motion.data.homing.startedMs → t.accepted ≤ t.release

/-- **Step lemma.**  Where no attempt starts late, the attempts stay punctual. -/
theorem punctual_step (hreg : w.Regular) (hfresh : w.Fresh) {t : Times} (hw : w.Timed t)
    (hlate : ¬ StartsLate a w) (hpunctual : w.Punctual t) :
    (step a w).Punctual (observeTimes a w t) := by
  intro hhome hpassed
  have hnow := nowMs_step (a := a) hw.nowMs
  rcases startedMs_step hreg hfresh hhome with ⟨haccepts, heq⟩ | ⟨hnot, hbefore, heq⟩
  · exfalso
    have hexecutes := haccepts
    obtain ⟨command, ⟨r, i, rfl, hphase, -⟩, -⟩ := hexecutes
    rcases observeTimes_release (.motion r) w t with ⟨-, -, hclock, -⟩ | ⟨-, hrelease⟩
    · exact absurd (hphase.symm.trans hclock) nofun
    · rw [hrelease, ← hw.nowMs] at hnow
      rw [hnow, heq] at hpassed
      exact hlate ⟨haccepts, hpassed⟩
  · rw [observeTimes_accepted, if_neg hnot]
    rcases observeTimes_release a w t with ⟨-, -, -, hrelease⟩ | ⟨-, hrelease⟩
    · rw [hrelease]
      exact hw.accepted_le
    · rw [hrelease] at hnow ⊢
      rw [hnow, heq, ← hw.nowMs] at hpassed
      exact hpunctual hbefore hpassed

omit [Rounding] in
/-- A reading that the clock has left behind differs from the later one by more than the deadline,
unless nearly a full wrap lies between them. -/
lemma homingTimeoutMs_le_of_lt {release accepted : ℕ} (hlt : release < accepted)
    (hwrap : accepted + 40000 ≤ release + 2 ^ 32) :
    homingTimeoutMs ≤ WrappingClock.reading release - WrappingClock.reading accepted := by
  have hdeadline : homingTimeoutMs.toNat = 40000 := rfl
  rw [UInt32.le_iff_toNat_le, UInt32.toNat_sub, WrappingClock.toNat_reading,
    WrappingClock.toNat_reading, hdeadline]
  omega

/-- What every reachable world and the observed times satisfy. -/
structure World.Clocked (env : Environment) (w : World) (t : Times) : Prop where
  regular : w.Regular
  fresh : w.Fresh
  env : w.io.env = env
  timed : w.Timed t

/-- Every step keeps the observed times of a monotone clock. -/
lemma World.Clocked.step {env : Environment} (hclock : Monotone env.clock) {t : Times}
    (h : w.Clocked env t) (a : Action) : (step a w).Clocked env (observeTimes a w t) where
  regular := h.regular.step a
  fresh := fresh_step h.fresh
  env := (elapses_step h.regular a).env.trans h.env
  timed := timed_step h.regular h.fresh (h.env ▸ hclock) h.timed

omit [Rounding] in
lemma clocked_runtimeInit (env : Environment) : (runtimeInit env).Clocked env {} where
  regular := regular_runtimeInit env
  fresh := fun _ => rfl
  env := rfl
  timed := ⟨rfl, nofun, Nat.zero_le _, Nat.zero_le _⟩

/-- The observed times of a run of a monotone clock. -/
lemma clocked_runtime {env : Environment} (hclock : Monotone env.clock) (as : List Action) :
    (runtime env as).Clocked env (times env as) :=
  Machine.watch_invariant (P := fun _ _ => True) (fun a _ _ hv _ => hv.step hclock a)
    (clocked_runtimeInit env) (Machine.along_of_forall fun _ _ => trivial)

/-- In a run in which no attempt starts late, every attempt is punctual. -/
lemma punctual_runtime {env : Environment} (hclock : Monotone env.clock) {as : List Action}
    (h : Machine.Along step (fun a v => ¬ StartsLate a v) (runtimeInit env) as) :
    (runtime env as).Punctual (times env as) := by
  have hstep : ∀ a (v : World) t, v.Clocked env t ∧ v.Punctual t → ¬ StartsLate a v →
      (step a v).Clocked env (observeTimes a v t) ∧ (step a v).Punctual (observeTimes a v t) := by
    intro a v t hv hnot
    exact ⟨hv.1.step hclock a, punctual_step hv.1.regular hv.1.fresh hv.1.timed hnot hv.2⟩
  have hinit : (runtimeInit env).Punctual {} := nofun
  exact (Machine.watch_invariant hstep ⟨clocked_runtimeInit env, hinit⟩ h).2

/-- **The deadline of a `HOME`.**  In a run in which no attempt starts late, a timeout is raised
only when the attempt was accepted at least 40 s of true time ago.  In every run a timeout has that
much time between the acceptance and the time of its release exactly when the attempt was accepted
no later than that time; otherwise the attempt is accepted in the release itself, and the update of
that release finds the deadline passed at once. -/
theorem homing_deadline (env : Environment) (hclock : Monotone env.clock) (as : List Action) :
    (Machine.Along step (fun a v => ¬ StartsLate a v) (runtimeInit env) as →
      ∀ a, RaisesTimeout a (runtime env as) →
        (times env as).accepted + 40000 ≤ (runtime env as).io.trueTime) ∧
    (∀ a, RaisesTimeout a (runtime env as) →
      ((times env as).accepted + 40000 ≤ (times env as).release ↔
        (times env as).accepted ≤ (times env as).release)) ∧
    (∀ a, Updates a (runtime env as) → (runtime env as).motion.data.state = .homing →
      (times env as).release < (times env as).accepted →
      (times env as).accepted + 40000 ≤ (times env as).release + 2 ^ 32 →
      ExpiresHome a (runtime env as)) := by
  have hclocked := clocked_runtime hclock as
  have hiff : ∀ a, RaisesTimeout a (runtime env as) →
      ((times env as).accepted + 40000 ≤ (times env as).release ↔
        (times env as).accepted ≤ (times env as).release) := by
    intro a hraises
    obtain ⟨-, hhome, hpassed⟩ :=
      expiresHome_of_raisesTimeout hclocked.regular (recorded_runtime env as) hraises
    rw [hclocked.timed.nowMs, hclocked.timed.startedMs hhome] at hpassed
    constructor
    · intro hdone
      omega
    · intro hle
      exact WrappingClock.le_of_le_reading_sub hle hpassed
  refine ⟨fun halong a hraises => ?_, hiff, fun a hupdates hhome hlt hwrap => ?_⟩
  · obtain ⟨-, hhome, hpassed⟩ :=
      expiresHome_of_raisesTimeout hclocked.regular (recorded_runtime env as) hraises
    have hpunctual := punctual_runtime hclock halong hhome hpassed
    exact ((hiff a hraises).mpr hpunctual).trans hclocked.timed.release_le
  · refine ⟨hupdates, hhome, ?_⟩
    rw [hclocked.timed.nowMs, hclocked.timed.startedMs hhome]
    exact homingTimeoutMs_le_of_lt hlt hwrap

/-- The clock stands still while a release is executed and advances a second between two of them,
once the seek has begun. -/
def slowSeek : Environment where
  gpio _ := some {}
  rawCount _ := some 1000
  clock n := min n 8 + 1000 * (n - 10)

/-- A `HOME`, and forty releases without a command up to the last section of the last one. -/
def longSeek : List Action :=
  startUp ++ release [⟨.home, 0⟩] ++ (List.replicate 39 (release [])).flatten ++
    [.motion none, .motion none, .motion none, .motion none, .motion none]

set_option maxRecDepth 4000 in
omit [Rounding] in
/-- A seek that meets no contact for forty seconds. -/
theorem homing_deadline_seek :
    (@times Binary32.rounding slowSeek longSeek).accepted + 40000 ≤
      (runtime32 slowSeek longSeek).io.trueTime := by
  have hclock : Monotone slowSeek.clock := by
    intro m n hmn
    simp only [slowSeek]
    omega
  exact (@homing_deadline Binary32.rounding slowSeek hclock longSeek).1 (by decide +kernel)
    (.motion none) (Or.inr (Or.inr ⟨by decide +kernel, by decide +kernel⟩))

omit [Rounding] in
/-- The clock ticks between the start of a release and the `HOME` that it executes: the release ends
in a homing timeout although the machine has been running for less than 40 s. -/
theorem homing_deadline_tick :
    Monotone standstill.clock ∧
      (runtime32 standstill (startUp ++ release [⟨.home, 0⟩])).motion.data.homing.result =
        .timeout ∧
      (runtime32 standstill (startUp ++ release [⟨.home, 0⟩])).safety.faults.active.code =
        .homingTimeout ∧
      (runtime32 standstill (startUp ++ release [⟨.home, 0⟩])).io.trueTime < 40000 :=
  ⟨fun _ _ h => h, by decide +kernel⟩

end MotionFirmware
