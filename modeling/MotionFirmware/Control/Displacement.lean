import MotionFirmware.Control.MotionRuns
import MotionFirmware.Drivers.Encoder

/-!
# Displacements across the counter wrap

The raw counter is a true position modulo `2 ^ 32`.  As long as the displacement between two samples
is shorter than half the range, the sample succeeds and its signed difference is that displacement,
however often the counter wraps and whatever the reference offset is; the differences of a history
add up to the total displacement.  A displacement of exactly half the range is refused, and the
sample after it starts a new history with zero velocity.
-/

namespace MotionFirmware

variable [Rounding] {c : MotionConfig} {x : Axis} {T : ℕ → ℤ} {dt : FloatValue} {call : MotionCall}

/-- The encoder is readable, and its raw counter is the true position `T n` at the `n`-th access. -/
def Axis.Tracks (x : Axis) (T : ℕ → ℤ) : Prop :=
  ∀ n, x.io.env.rawCount n = some (UInt32.ofInt (T n))

/-- The true displacement between the previous access and the next one. -/
def Axis.displacement (x : Axis) (T : ℕ → ℤ) : ℤ := T x.io.rawReads - T (x.io.rawReads - 1)

/-- The signed difference that `motion_sample` computes from the next count. -/
def Axis.delta (x : Axis) : ℤ :=
  (signedBits (x.motion.deltaBits (x.io.encoderGetCount.getD 0))).toInt

/-- The time step is valid; and where the sample has a history, the displacement is shorter than
half the range and the velocity is finite. -/
def Axis.Decodable (x : Axis) (T : ℕ → ℤ) (dt : FloatValue) : Prop :=
  badStep dt = false ∧ (x.motion.sampled = true →
    |x.displacement T| < 2 ^ 31 ∧ (FloatValue.ofInt (x.displacement T) / dt).isFinite = true)

/-- The start of a history, as the number of its first access, and the sum of the differences
computed in it. -/
def MotionCall.observeDelta (call : MotionCall) (x : Axis) (seen : ℕ × ℤ) : ℕ × ℤ :=
  match call with
  | .sample dt =>
    if (motionSample x dt).1 then
      if x.motion.sampled then (seen.1, seen.2 + x.delta) else (x.io.rawReads, 0)
    else seen
  | _ => seen

/-- What the observer of the differences has seen after a run from `x`. -/
def deltaSeen (x : Axis) (calls : List MotionCall) : ℕ × ℤ :=
  Machine.watch MotionCall.step MotionCall.observeDelta x (0, 0) calls

/-- The controller's history is the count at its latest access. -/
structure Axis.Follows (x : Axis) (T : ℕ → ℤ) : Prop where
  initialized : x.motion.initialized = true
  tracks : x.Tracks T
  history : x.motion.sampled = true → x.motion.previousCount =
    signedBits (UInt32.ofInt (T (x.io.rawReads - 1)) + x.io.referenceOffset)

omit [Rounding] in
/-- The next count is the logical count of the true position. -/
lemma Axis.Tracks.encoderGetCount (h : x.Tracks T) :
    x.io.encoderGetCount =
      some (signedBits (UInt32.ofInt (T x.io.rawReads) + x.io.referenceOffset)) := by
  unfold Peripherals.encoderGetCount Peripherals.rawCount
  rw [h]
  rfl

/-! ### One sample -/

omit [Rounding] in
/-- With a history, the difference of the counts is the counter of the displacement. -/
lemma Axis.Follows.deltaBits (hx : x.Follows T) (hsampled : x.motion.sampled = true) :
    x.motion.deltaBits (x.io.encoderGetCount.getD 0) = UInt32.ofInt (x.displacement T) := by
  rw [hx.tracks.encoderGetCount, Option.getD_some, deltaBits_signedBits (hx.history hsampled),
    ofInt_sub_ofInt]
  rfl

omit [Rounding] in
/-- A displacement shorter than half the range is computed exactly. -/
lemma Axis.Follows.delta (hx : x.Follows T) (hsampled : x.motion.sampled = true)
    (hshort : |x.displacement T| < 2 ^ 31) : x.delta = x.displacement T := by
  obtain ⟨hlow, hhigh⟩ := abs_lt.mp hshort
  rw [Axis.delta, hx.deltaBits hsampled, toInt_signedBits_ofInt hlow.le hhigh]

/-- A decodable sample succeeds. -/
lemma Axis.Follows.motionSample (hx : x.Follows T) (h : x.Decodable T dt) :
    (motionSample x dt).1 = true := by
  obtain ⟨hstep, hdecodes⟩ := h
  have hgood : x.motion.badCount (x.io.encoderGetCount.getD 0) dt = false := by
    cases hsampled : x.motion.sampled with
    | false => simp [MotionController.badCount, hsampled]
    | true =>
      obtain ⟨hshort, hfinite⟩ := hdecodes hsampled
      have hdelta := hx.delta hsampled hshort
      have hhalf : x.motion.deltaBits (x.io.encoderGetCount.getD 0) ≠ 2147483648 := by
        rw [hx.deltaBits hsampled, Ne, ofInt_eq_half_iff]
        intro hmod
        obtain ⟨hlow, hhigh⟩ := abs_lt.mp hshort
        unfold Int.ModEq at hmod
        omega
      have hvelocity : x.motion.estimate (x.io.encoderGetCount.getD 0) dt =
          .ofInt (x.displacement T) / dt := by
        rw [MotionController.estimate, hsampled, if_pos rfl, ← hdelta]
        rfl
      simp [MotionController.badCount, hhalf, hvelocity, hfinite]
  unfold MotionFirmware.motionSample
  rw [if_neg (by simp [hx.initialized, hstep])]
  rw [hx.tracks.encoderGetCount] at hgood ⊢
  dsimp only
  rw [Option.getD_some] at hgood
  rw [hgood]
  rfl

/-- A displacement of half the range is refused. -/
lemma Axis.Follows.refuses_half (hx : x.Follows T) (hsampled : x.motion.sampled = true)
    (hhalf : x.displacement T ≡ 2 ^ 31 [ZMOD 2 ^ 32]) :
    (MotionFirmware.motionSample x dt).1 = false := by
  have hbits := hx.deltaBits hsampled
  rw [ofInt_eq_half_iff.mpr hhalf] at hbits
  rcases motionSample_cases x dt with ⟨y, -, -, heq⟩ | ⟨count, hcount, hgood, -⟩
  · rw [heq]
  · rw [hcount, Option.getD_some] at hbits
    simp [MotionController.badCount, hsampled, hbits] at hgood

/-- A successful sample without a history reports no velocity. -/
lemma velocity_of_not_sampled (hsampled : x.motion.sampled = false)
    (h : (motionSample x dt).1 = true) : (motionSample x dt).2.motion.data.velocity = 0 := by
  rcases motionSample_cases x dt with ⟨y, -, -, heq⟩ | ⟨count, -, -, heq⟩
  · rw [heq] at h
    exact absurd h nofun
  · rw [heq]
    exact if_neg (by simp [hsampled])

/-! ### Histories -/

omit [Rounding] in
/-- A failure ends the history. -/
lemma fail_sampled (h : x.motion.initialized = true) : (fail x).motion.sampled = false := by
  unfold fail
  rw [if_pos h]

/-- **Step lemma.**  Every call keeps the history on the count of the latest access. -/
theorem follows_step (call : MotionCall) (hx : x.Follows T) : (call.step x).Follows T := by
  have heffect := call.effect x
  generalize call.result x = r at heffect
  generalize call.step x = y at heffect ⊢
  have hhalt := halt_keeps x.motion
  have hkeeps := updated_keeps x.motion
  cases heffect with
  | @failed _ y frame =>
    have hinit := frame.initialized.trans hx.initialized
    refine ⟨(Axis.Frame.fail frame).initialized.trans hx.initialized, fun n => ?_, fun h => ?_⟩
    · rw [(Axis.Frame.fail frame).env]
      exact hx.tracks n
    · rw [fail_sampled hinit] at h
      exact absurd h nofun
  | sampled hread =>
    rw [hx.tracks.encoderGetCount] at hread
    exact ⟨hx.initialized, hx.tracks, fun _ => (Option.some.inj hread).symm⟩
  | refused => exact hx
  | halted =>
    refine ⟨hhalt.initialized.trans hx.initialized, hx.tracks, fun h => ?_⟩
    exact hhalt.previousCount.trans (hx.history (hhalt.sampled ▸ h))
  | started => exact ⟨hx.initialized, hx.tracks, hx.history⟩
  | rested =>
    refine ⟨hkeeps.initialized.trans hx.initialized, hx.tracks, fun h => ?_⟩
    exact hkeeps.previousCount.trans (hx.history (hkeeps.sampled ▸ h))
  | drove =>
    refine ⟨hkeeps.initialized.trans hx.initialized, hx.tracks, fun h => ?_⟩
    exact hkeeps.previousCount.trans (hx.history (hkeeps.sampled ▸ h))

/-- The differences of the present history add up to the displacement since its first access. -/
def Axis.Sums (x : Axis) (T : ℕ → ℤ) (seen : ℕ × ℤ) : Prop :=
  x.motion.sampled = true → seen.2 = T (x.io.rawReads - 1) - T seen.1

/-- Every decodable sample adds its displacement. -/
lemma sums_step {seen : ℕ × ℤ} (hx : x.Follows T) (hsum : x.Sums T seen)
    (hdecodes : ∀ dt, call = .sample dt → x.Decodable T dt) :
    (call.step x).Sums T (call.observeDelta x seen) := by
  have heffect := call.effect x
  generalize hresult : call.result x = r at heffect
  generalize call.step x = y at heffect ⊢
  cases heffect with
  | failed frame =>
    intro h
    rw [fail_sampled (frame.initialized.trans hx.initialized)] at h
    exact absurd h nofun
  | @sampled dt count =>
    have hok : (motionSample x dt).1 = true := CallResult.returned.inj hresult
    intro _
    simp only [MotionCall.observeDelta, hok, if_true]
    cases hsampled : x.motion.sampled with
    | false => simp [Peripherals.afterEncoder]
    | true =>
      have hdelta := hx.delta hsampled ((hdecodes dt rfl).2 hsampled).1
      rw [if_pos rfl, hdelta, hsum hsampled, Axis.displacement]
      simp [Peripherals.afterEncoder]
  | refused => exact hsum
  | halted => exact fun h => hsum ((halt_keeps x.motion).sampled ▸ h)
  | started => exact hsum
  | rested => exact fun h => hsum ((updated_keeps x.motion).sampled ▸ h)
  | drove => exact fun h => hsum ((updated_keeps x.motion).sampled ▸ h)

/-- Only a successful sample starts a history. -/
lemma samples_of_sampled (hinit : x.motion.initialized = true)
    (hbefore : x.motion.sampled = false) (h : ¬ call.Samples x) :
    (call.step x).motion.sampled = false := by
  have heffect := call.effect x
  generalize hresult : call.result x = r at heffect
  generalize call.step x = y at heffect ⊢
  cases heffect with
  | failed frame => exact fail_sampled (frame.initialized.trans hinit)
  | sampled => exact absurd ⟨_, rfl, CallResult.returned.inj hresult⟩ h
  | refused => exact hbefore
  | halted => exact (halt_keeps x.motion).sampled.trans hbefore
  | started => exact hbefore
  | rested => exact (updated_keeps x.motion).sampled.trans hbefore
  | drove => exact (updated_keeps x.motion).sampled.trans hbefore

/-- The sample is decodable, if the call is one. -/
def MotionCall.Decodes (T : ℕ → ℤ) (call : MotionCall) (x : Axis) : Prop :=
  ∀ dt, call = .sample dt → x.Decodable T dt

/-- The call, if it is a sample, succeeds, and with a history it computes the displacement. -/
def MotionCall.Exact (T : ℕ → ℤ) (call : MotionCall) (x : Axis) : Prop :=
  ∀ dt, call = .sample dt → (motionSample x dt).1 = true ∧
    (x.motion.sampled = true → x.delta = x.displacement T ∧
      (motionSample x dt).2.motion.data.velocity = .ofInt (x.displacement T) / dt)

/-- A decodable call on a controller that follows the counter is exact. -/
lemma exact_of_decodes (hx : x.Follows T) (h : call.Decodes T x) : call.Exact T x := by
  intro dt hcall
  have hdecodable := h dt hcall
  have hok := hx.motionSample hdecodable
  refine ⟨hok, fun hsampled => ?_⟩
  have hdelta := hx.delta hsampled (hdecodable.2 hsampled).1
  refine ⟨hdelta, ?_⟩
  rcases motionSample_cases x dt with ⟨y, -, -, heq⟩ | ⟨count, hcount, -, heq⟩
  · rw [heq] at hok
    exact absurd hok nofun
  · have hvelocity : x.motion.estimate count dt = .ofInt x.delta / dt := by
      rw [MotionController.estimate, if_pos hsampled, Axis.delta, hcount, Option.getD_some]
    rw [heq, ← hdelta]
    exact hvelocity

/-- As long as no call fails, the history starts at the first access. -/
def Axis.Unbroken (x : Axis) (first : ℕ) (seen : ℕ × ℤ) : Prop :=
  if x.motion.sampled then seen.1 = first else x.io.rawReads = first

/-- A call that does not fail keeps the start of the history. -/
lemma unbroken_step {first : ℕ} {seen : ℕ × ℤ} (hx : x.Unbroken first seen) (h : ¬ call.Fails x) :
    (call.step x).Unbroken first (call.observeDelta x seen) := by
  have heffect := call.effect x
  unfold MotionCall.Fails at h
  unfold Axis.Unbroken at hx ⊢
  generalize hresult : call.result x = r at heffect h
  generalize call.step x = y at heffect ⊢
  cases heffect with
  | failed => exact absurd rfl h
  | @sampled dt =>
    have hok : (motionSample x dt).1 = true := CallResult.returned.inj hresult
    simp only [MotionCall.observeDelta, hok, if_true, MotionController.accept]
    split_ifs at hx ⊢
    · exact hx
    · exact hx
  | refused => exact hx
  | halted =>
    rw [(halt_keeps x.motion).sampled]
    exact hx
  | started => exact hx
  | rested => exact (updated_keeps x.motion).sampled ▸ hx
  | drove => exact (updated_keeps x.motion).sampled ▸ hx

/-! ### Runs -/

section Runs

variable {x₀ : Axis} {calls : List MotionCall}

omit [Rounding] in
/-- `motion_init` starts without a history. -/
lemma follows_motionInit (h : motionInit x c = some x₀) (hT : x.Tracks T) :
    x₀.Follows T ∧ x₀.motion.sampled = false ∧ x₀.io.rawReads = x.io.rawReads := by
  obtain ⟨-, pid, -, rfl⟩ := motionInit_some h
  exact ⟨⟨rfl, hT, nofun⟩, rfl, rfl⟩

/-- The history is kept along every run. -/
lemma follows_run (calls : List MotionCall) (hx : x.Follows T) :
    (Machine.run MotionCall.step x calls).Follows T :=
  Machine.run_invariant_of_forall (I := fun v : Axis => v.Follows T)
    (fun call _ hv => follows_step call hv) hx

/-- Decodable samples are exact, and their differences add up. -/
lemma decodes_run (hx : x.Follows T) (hsampled : x.motion.sampled = false)
    (hdecodes : Machine.Along MotionCall.step (MotionCall.Decodes T) x calls) :
    Machine.Along MotionCall.step (MotionCall.Exact T) x calls ∧
      (Machine.run MotionCall.step x calls).Sums T (deltaSeen x calls) := by
  refine ⟨Machine.along_of_invariant (fun call _ hv _ => follows_step call hv)
    (fun _ _ hv hd => exact_of_decodes hv hd) hx hdecodes, ?_⟩
  have hempty : x.Sums T (0, 0) := by
    intro h
    exact absurd h (by simp [hsampled])
  exact (Machine.watch_invariant (I := fun v seen => v.Follows T ∧ v.Sums T seen)
    (fun call _ _ hv hd => ⟨follows_step call hv.1, sums_step hv.1 hv.2 hd⟩)
    ⟨hx, hempty⟩ hdecodes).2

/-- Without a failing call the history starts at the first access of the run. -/
lemma unbroken_run (hsampled : x.motion.sampled = false)
    (hok : Machine.Along MotionCall.step (fun call v => ¬ call.Fails v) x calls) :
    (Machine.run MotionCall.step x calls).Unbroken x.io.rawReads (deltaSeen x calls) := by
  have hstart : x.Unbroken x.io.rawReads (0, 0) := by simp [Axis.Unbroken, hsampled]
  exact Machine.watch_invariant (I := fun v seen => v.Unbroken x.io.rawReads seen)
    (fun _ _ _ hv hd => unbroken_step hv hd) hstart hok

/-- After a failed sample the next successful one reports no velocity. -/
lemma velocity_after_fail (hx : x.Follows T) (hfails : (MotionCall.sample dt).Fails x)
    {later : List MotionCall} {dt' : FloatValue}
    (hnone : Machine.Along MotionCall.step (fun call v => ¬ call.Samples v)
      ((MotionCall.sample dt).step x) later)
    (hok : (motionSample
      (Machine.run MotionCall.step ((MotionCall.sample dt).step x) later) dt').1 = true) :
    (motionSample (Machine.run MotionCall.step ((MotionCall.sample dt).step x) later)
      dt').2.motion.data.velocity = 0 := by
  have hlost : ((MotionCall.sample dt).step x).motion.sampled = false := by
    rcases motionSample_cases x dt with ⟨y, hframe, -, heq⟩ | ⟨count, -, -, heq⟩
    · rw [MotionCall.step, MotionCall.perform, heq]
      exact fail_sampled (hframe.initialized.trans hx.initialized)
    · rw [MotionCall.Fails, MotionCall.result, MotionCall.perform, heq] at hfails
      exact absurd hfails nofun
  have hrun := Machine.run_invariant (I := fun v => v.Follows T ∧ v.motion.sampled = false)
    (fun call v hv hnot => ⟨follows_step call hv.1, samples_of_sampled hv.1.initialized hv.2 hnot⟩)
    ⟨follows_step (.sample dt) hx, hlost⟩ hnone
  exact velocity_of_not_sampled hrun.2 hok

/-- **Displacement decoding.**  From `motion_init`, whatever else is called in between, every sample
whose displacement is shorter than half the range succeeds and computes the displacement, and the
differences of a history add up to the displacement since its first access; if no call fails, that
is the first access of the run.  A displacement of half the range is refused, and the next
successful sample reports no velocity.  The host and the STM32 driver both read the count that the
controller samples. -/
theorem displacement_decoding (h : motionInit x c = some x₀) (hT : x.Tracks T)
    (calls : List MotionCall) :
    (Machine.Along MotionCall.step (MotionCall.Decodes T) x₀ calls →
      Machine.Along MotionCall.step (MotionCall.Exact T) x₀ calls ∧
        (Machine.run MotionCall.step x₀ calls).Sums T (deltaSeen x₀ calls)) ∧
    (Machine.Along MotionCall.step (fun call v => ¬ call.Fails v) x₀ calls →
      (Machine.run MotionCall.step x₀ calls).motion.sampled = true →
      (deltaSeen x₀ calls).1 = x.io.rawReads) ∧
    (∀ dt, (Machine.run MotionCall.step x₀ calls).motion.sampled = true →
      (Machine.run MotionCall.step x₀ calls).displacement T ≡ 2 ^ 31 [ZMOD 2 ^ 32] →
      (MotionCall.sample dt).Fails (Machine.run MotionCall.step x₀ calls) ∧
        ∀ (later : List MotionCall) (dt' : FloatValue),
          Machine.Along MotionCall.step (fun call v => ¬ call.Samples v)
            (Machine.run MotionCall.step x₀ (calls ++ [.sample dt])) later →
          (motionSample (Machine.run MotionCall.step x₀ (calls ++ .sample dt :: later))
            dt').1 = true →
          (motionSample (Machine.run MotionCall.step x₀ (calls ++ .sample dt :: later))
            dt').2.motion.data.velocity = 0) ∧
    ∀ n, (EncoderHost.mk true (UInt32.ofInt (T n)) x.io.referenceOffset).encoderGetCount =
        { x.io with rawReads := n }.encoderGetCount ∧
      (EncoderStm32.mk true x.io.referenceOffset (UInt32.ofInt (T n))).encoderGetCount =
        { x.io with rawReads := n }.encoderGetCount := by
  obtain ⟨hstart, hsampled₀, hreads⟩ := follows_motionInit h hT
  have hx := follows_run calls hstart
  refine ⟨decodes_run hstart hsampled₀, fun hok hsampled => ?_, fun dt hsampled hhalf => ?_,
    fun n => ?_⟩
  · have hunbroken := unbroken_run hsampled₀ hok
    rw [Axis.Unbroken, if_pos hsampled, hreads] at hunbroken
    exact hunbroken
  · have hfails : (MotionCall.sample dt).Fails (Machine.run MotionCall.step x₀ calls) :=
      congrArg CallResult.returned (hx.refuses_half hsampled hhalf)
    refine ⟨hfails, fun later dt' hnone hok => ?_⟩
    simp only [Machine.run_append, Machine.run_cons, Machine.run_nil] at hnone hok ⊢
    exact velocity_after_fail hx hfails hnone hok
  · have hshows : ({ x.io with rawReads := n } : Peripherals).Shows true (UInt32.ofInt (T n))
        x.io.referenceOffset := ⟨hT n, rfl⟩
    exact ⟨
      Peripherals.Shows.host_get (e := ⟨true, UInt32.ofInt (T n), x.io.referenceOffset⟩) hshows,
      Peripherals.Shows.stm32_get (e := ⟨true, x.io.referenceOffset, UInt32.ofInt (T n)⟩) hshows⟩

omit [Rounding] in
/-- Two samples around the wrap of the raw counter. -/
theorem displacement_decoding_wrap :
    Machine.Along (@MotionCall.step Binary32.rounding)
      (@MotionCall.Exact Binary32.rounding fun n => 4294967200 + 150 * n)
      (startedBench fun n => UInt32.ofInt (4294967200 + 150 * n))
      [.sample (.finite (1 / 100)), .sample (.finite (1 / 100))] := by
  refine ((@displacement_decoding Binary32.rounding defaultConfig32
    (bench fun n => UInt32.ofInt (4294967200 + 150 * n)) _ _ (motionInit_bench _) (fun _ => rfl)
    [.sample (.finite (1 / 100)), .sample (.finite (1 / 100))]).1 ⟨?_, ?_, trivial⟩).1
  · rintro dt ⟨rfl⟩
    exact ⟨by decide +kernel, nofun⟩
  · rintro dt ⟨rfl⟩
    exact ⟨by decide +kernel, fun _ => by decide +kernel⟩

end Runs

end MotionFirmware
