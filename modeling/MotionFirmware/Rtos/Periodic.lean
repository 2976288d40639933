import Mathlib.Order.Nat
import MotionFirmware.Foundation.WrappingClock

/-!
# Periodic waits

`runtime_periodic_wait` of `periodic.c`, over `xTaskDelayUntil` and `vTaskDelay` of the kernel.  A
wait is not one action: the caller may be preempted before the kernel looks at the tick count,
between a missed deadline and the yield that follows it, and after it has become ready again.  The
tick count of the kernel is the reading of a true tick.

The release time that the caller keeps is the reading of a true tick, except while a missed
deadline is being dealt with.  A deadline that is reached within a full wrap of the tick count is
missed exactly when the wait is called at or after it.
-/

namespace MotionFirmware

open WrappingClock

/-- `pdMS_TO_TICKS`, at the tick rate of 100 Hz. -/
def pdMsToTicks (ms : UInt32) : UInt32 := (ms.toUInt64 * 100 / 1000).toUInt32

/-- `xTaskDelayUntil` at the given tick count: whether the caller blocks, and its new wake time. -/
def xTaskDelayUntil (tickCount previousWakeTime timeIncrement : UInt32) : Bool × UInt32 :=
  let timeToWake := previousWakeTime + timeIncrement
  if tickCount < previousWakeTime then
    (timeToWake < previousWakeTime && tickCount < timeToWake, timeToWake)
  else (timeToWake < previousWakeTime || tickCount < timeToWake, timeToWake)

/-- Where a periodic task is. -/
inductive WaitStage where
  /-- It executes a release. -/
  | working
  /-- It has called `runtime_periodic_wait`. -/
  | waiting
  /-- `xTaskDelayUntil` blocks it until the tick. -/
  | delayed (wake : ℕ)
  /-- It has missed its deadline and is about to yield. -/
  | overdue
  /-- `vTaskDelay` blocks it until the tick. -/
  | yielded (wake : ℕ)
  deriving DecidableEq

/-- A task that calls `runtime_periodic_wait` at the end of each release. -/
structure PeriodicTask where
  stage : WaitStage := .working
  /-- `*release`. -/
  release : UInt32
  /-- `*overruns`, or nothing where the caller passes `NULL`. -/
  overruns : Option UInt32
  /-- The true tick of the present release. -/
  releasedAt : ℕ
  deriving DecidableEq

/-- The next step of `runtime_periodic_wait`, at a true tick.  A blocked caller stays blocked until
its tick. -/
def runtimePeriodicWait (periodMs : UInt32) (now : ℕ) (t : PeriodicTask) : PeriodicTask :=
  match t.stage with
  | .working => t
  | .waiting =>
    let delay := xTaskDelayUntil (reading now) t.release (pdMsToTicks periodMs)
    if delay.1 then
      -- The kernel blocks the caller for a number of ticks, not until a tick count.
      let wake := now + (delay.2 - reading now).toNat
      { t with stage := .delayed wake, release := delay.2, releasedAt := wake }
    else { t with stage := .overdue, release := delay.2, overruns := t.overruns.map (· + 1) }
  | .delayed wake => if wake ≤ now then { t with stage := .working } else t
  | .overdue => { t with stage := .yielded (now + 1) }
  | .yielded wake =>
    if wake ≤ now then { t with stage := .working, release := reading now, releasedAt := now }
    else t

variable {tickCount previousWakeTime timeIncrement periodMs : UInt32} {now later r : ℕ}
  {t : PeriodicTask}

/-! ### The kernel's decision -/

/-- The new wake time. -/
@[simp] lemma xTaskDelayUntil_snd :
    (xTaskDelayUntil tickCount previousWakeTime timeIncrement).2 =
      previousWakeTime + timeIncrement := by
  unfold xTaskDelayUntil
  dsimp only
  split_ifs <;> rfl

/-- When the caller blocks. -/
lemma xTaskDelayUntil_fst :
    (xTaskDelayUntil tickCount previousWakeTime timeIncrement).1 = true ↔
      if tickCount < previousWakeTime then
        previousWakeTime + timeIncrement < previousWakeTime ∧
          tickCount < previousWakeTime + timeIncrement
      else previousWakeTime + timeIncrement < previousWakeTime ∨
        tickCount < previousWakeTime + timeIncrement := by
  unfold xTaskDelayUntil
  dsimp only
  split_ifs <;> simp

/-- A caller that blocks does so for at least one tick. -/
lemma pos_of_xTaskDelayUntil
    (h : (xTaskDelayUntil tickCount previousWakeTime timeIncrement).1 = true) :
    0 < ((xTaskDelayUntil tickCount previousWakeTime timeIncrement).2 - tickCount).toNat := by
  have hne : previousWakeTime + timeIncrement ≠ tickCount := by
    rintro heq
    rw [xTaskDelayUntil_fst, heq] at h
    split_ifs at h with hwrap
    · exact absurd h.2 (UInt32.lt_irrefl _)
    · exact h.elim hwrap (UInt32.lt_irrefl _)
  rw [xTaskDelayUntil_snd, Nat.pos_iff_ne_zero]
  intro hzero
  have hsub : previousWakeTime + timeIncrement - tickCount = 0 := UInt32.toNat_inj.mp hzero
  exact hne (by grind)

/-- **The kernel's comparison of wrapping tick counts.**  Less than a full wrap after the release,
the caller blocks exactly when the deadline lies ahead. -/
lemma xTaskDelayUntil_iff (hle : r ≤ now) (hlt : now < r + 2 ^ 32) :
    (xTaskDelayUntil (reading now) (reading r) timeIncrement).1 = true ↔
      now < r + timeIncrement.toNat := by
  have htop := timeIncrement.toNat_lt
  rw [xTaskDelayUntil_fst]
  simp only [UInt32.lt_iff_toNat_lt, UInt32.toNat_add, toNat_reading]
  split_ifs <;> omega

/-- A deadline that lies ahead is the tick at which the caller is woken. -/
lemma wake_eq_deadline (hle : r ≤ now) (hlt : now < r + timeIncrement.toNat) :
    now + (reading r + timeIncrement - reading now).toNat = r + timeIncrement.toNat := by
  have htop := timeIncrement.toNat_lt
  rw [UInt32.toNat_sub, UInt32.toNat_add, toNat_reading, toNat_reading]
  omega

/-! ### The steps of a wait -/

namespace PeriodicTask

/-- What a periodic task knows about its release time. -/
def Anchored (t : PeriodicTask) (now : ℕ) : Prop :=
  match t.stage with
  | .working | .waiting => t.release = reading t.releasedAt ∧ t.releasedAt ≤ now
  | .delayed wake => t.release = reading wake ∧ t.releasedAt = wake
  | .overdue | .yielded _ => True

/-- A wait that has been called at or after the tick `r` ends after it. -/
def Beyond (t : PeriodicTask) (r now : ℕ) : Prop :=
  match t.stage with
  | .working | .waiting | .overdue => r ≤ now
  | .delayed wake | .yielded wake => r < wake

/-- The release time is not disturbed by the passing of time. -/
lemma Anchored.mono (h : t.Anchored now) (hle : now ≤ later) : t.Anchored later := by
  unfold Anchored at h ⊢
  split at h
  · exact ⟨h.1, h.2.trans hle⟩
  · exact ⟨h.1, h.2.trans hle⟩
  · exact h
  · trivial
  · trivial

/-- A wait goes beyond a tick also when time passes. -/
lemma Beyond.mono (h : t.Beyond r now) (hle : now ≤ later) : t.Beyond r later := by
  unfold Beyond at h ⊢
  split at h
  · exact h.trans hle
  · exact h.trans hle
  · exact h.trans hle
  · exact h
  · exact h

end PeriodicTask

/-- An overrun is counted where the kernel looks at the deadline. -/
lemma runtimePeriodicWait_overruns (h : t.stage ≠ .waiting) :
    (runtimePeriodicWait periodMs now t).overruns = t.overruns := by
  unfold runtimePeriodicWait
  split
  next => rfl
  next hstage => exact absurd hstage h
  next => split_ifs <;> rfl
  next => rfl
  next => split_ifs <;> rfl

/-- A wait keeps the release time anchored. -/
lemma PeriodicTask.Anchored.wait (h : t.Anchored now) :
    (runtimePeriodicWait periodMs now t).Anchored now := by
  unfold runtimePeriodicWait
  split
  next hstage => exact h
  next hstage =>
    dsimp only
    split_ifs
    · refine ⟨?_, rfl⟩
      dsimp only
      rw [reading_add_sub]
    · trivial
  next wake hstage =>
    simp only [Anchored, hstage] at h
    split_ifs with hwake
    · exact ⟨h.1.trans (by rw [h.2]), h.2.le.trans hwake⟩
    · simpa only [Anchored, hstage] using h
  next hstage => trivial
  next wake hstage =>
    split_ifs with hwake
    · exact ⟨rfl, le_rfl⟩
    · simp only [Anchored, hstage]

/-- A wait goes beyond every tick that it was called at or after. -/
lemma PeriodicTask.Beyond.wait (h : t.Beyond r now) :
    (runtimePeriodicWait periodMs now t).Beyond r now ∧
      (t.stage ≠ .working → (runtimePeriodicWait periodMs now t).stage = .working → r < now) := by
  unfold runtimePeriodicWait
  split
  next hstage => exact ⟨h, fun hne => absurd hstage hne⟩
  next hstage =>
    simp only [Beyond, hstage] at h
    dsimp only
    split_ifs with hblock
    · have := pos_of_xTaskDelayUntil hblock
      exact ⟨by simp only [Beyond]; omega, fun _ hworking => absurd hworking nofun⟩
    · exact ⟨h, fun _ hworking => absurd hworking nofun⟩
  next wake hstage =>
    simp only [Beyond, hstage] at h
    split_ifs with hwake
    · exact ⟨(h.trans_le hwake).le, fun _ _ => h.trans_le hwake⟩
    · exact ⟨by simpa only [Beyond, hstage] using h,
        fun _ hworking => absurd (hstage.symm.trans hworking) nofun⟩
  next hstage =>
    simp only [Beyond, hstage] at h
    exact ⟨Nat.lt_succ_of_le h, fun _ hworking => absurd hworking nofun⟩
  next wake hstage =>
    simp only [Beyond, hstage] at h
    split_ifs with hwake
    · exact ⟨(h.trans_le hwake).le, fun _ _ => h.trans_le hwake⟩
    · exact ⟨by simpa only [Beyond, hstage] using h,
        fun _ hworking => absurd (hstage.symm.trans hworking) nofun⟩

/-- **Deadlines that are met.**  A wait that is called before the deadline counts no overrun, and
the next release is due at the deadline. -/
lemma runtimePeriodicWait_of_timely (h : t.Anchored now) (hstage : t.stage = .waiting)
    (hlt : now < t.releasedAt + (pdMsToTicks periodMs).toNat) :
    runtimePeriodicWait periodMs now t =
      { t with
        stage := .delayed (t.releasedAt + (pdMsToTicks periodMs).toNat)
        release := t.release + pdMsToTicks periodMs
        releasedAt := t.releasedAt + (pdMsToTicks periodMs).toNat } := by
  simp only [PeriodicTask.Anchored, hstage] at h
  obtain ⟨hrelease, hle⟩ := h
  have htop := (pdMsToTicks periodMs).toNat_lt
  have hblock : (xTaskDelayUntil (reading now) t.release (pdMsToTicks periodMs)).1 = true := by
    rw [hrelease]
    exact (xTaskDelayUntil_iff hle (by omega)).mpr hlt
  have hwake := wake_eq_deadline hle hlt
  unfold runtimePeriodicWait
  rw [hstage]
  dsimp only
  rw [if_pos hblock, xTaskDelayUntil_snd, hrelease, hwake]

end MotionFirmware
