import MotionFirmware.Control.MotionRuns
import MotionFirmware.Foundation.Streak

/-!
# The dwell rule

A move is complete, and a stop is over, when the band has been held for `dwell_cycles` consecutive
updates.  The controller keeps one counter for both states; an observer of the calls keeps the whole
history of the updates since the last `MOVE`, or since the `STOP` that interrupted it.  The counter
is always the length of the current streak of that history, so the first update that ends a streak
is the one that leads to `IDLE`.
-/

namespace MotionFirmware

variable [Rounding]

/-- The update is made, and its sample lies in the band: the estimated velocity, and in `MOVING` the
error of the position, too.  An update that its input check refuses computes no error. -/
def Axis.holdsBand (x : Axis) (dt : FloatValue) : Bool :=
  !x.refusesUpdate dt && decide (x.motion.data.velocity.abs ≤ x.motion.config.completionVelocity) &&
    (x.motion.data.state == .stopping ||
      decide ((FloatValue.ofInt (x.motion.data.target.toInt - x.motion.data.position.toInt)).abs ≤
        x.motion.config.tolerance))

namespace MotionCall

/-- The call is accepted and starts a new history: a `MOVE` or `MOVE_REL`, or a `STOP` in
`MOVING`. -/
def restarts (call : MotionCall) (x : Axis) : Bool :=
  match call with
  | .command c =>
    (motionCommand x c).1 == .accepted && (c.type != .stop || x.motion.data.state == .moving)
  | _ => false

/-- The history of the updates since the last restart, the newest first. -/
def observeBand (call : MotionCall) (x : Axis) (history : List Bool) : List Bool :=
  match call with
  | .update dt => x.holdsBand dt :: history
  | _ => if call.restarts x then [] else history

/-- The call is an update, and the first since the last restart to end a streak of `n` updates in
the band. -/
def EndsDwell (call : MotionCall) (x : Axis) (n : ℕ) (history : List Bool) : Prop :=
  ∃ dt, call = .update dt ∧ Streak.EndsFirst n (x.holdsBand dt :: history)

end MotionCall

/-- The history of the updates after a run from `x`. -/
def bandHistory (x : Axis) (calls : List MotionCall) : List Bool :=
  Machine.watch MotionCall.step MotionCall.observeBand x [] calls

/-- The controller dwells: `stable_cycles` is in use. -/
def Axis.dwelling (x : Axis) : Prop :=
  x.motion.data.state = .moving ∨ x.motion.data.state = .stopping

/-- The counter agrees with the history: no streak has ended since the last restart, and the counter
is the length of the current one. -/
structure DwellCounts (c : MotionConfig) (x : Axis) (history : List Bool) : Prop where
  config : x.motion.config = c
  initialized : x.motion.initialized = true
  never : x.dwelling → Streak.Never c.dwellCycles.toNat history
  counter : x.dwelling → x.motion.data.stableCycles.toNat = Streak.length history

variable {c : MotionConfig} {x : Axis} {history : List Bool} {dt : FloatValue} {call : MotionCall}

/-! ### One update -/

/-- The end of the dwell: the update leads to `IDLE` and counts the move it ends. -/
lemma updated_of_done {m : MotionController}
    (hd : m.data.state = .moving ∨ m.data.state = .stopping)
    (h : m.config.dwellCycles ≤ m.withError.nextStable) :
    m.updated.data.state = .idle ∧ m.updated.data.completedMoves =
      if m.data.state = .moving then m.data.completedMoves + 1 else m.data.completedMoves := by
  have hd' : m.withError.data.state = .moving ∨ m.withError.data.state = .stopping := hd
  have h' : m.withError.config.dwellCycles ≤ m.withError.nextStable := h
  unfold MotionController.updated MotionController.dwell
  rw [if_pos hd', if_pos h']
  exact ⟨rfl, rfl⟩

/-- Before the end of the dwell an update stores the counter and keeps the state. -/
lemma updated_of_not_done {m : MotionController}
    (hd : m.data.state = .moving ∨ m.data.state = .stopping)
    (h : ¬ m.config.dwellCycles ≤ m.withError.nextStable) :
    m.updated.data.state = m.data.state ∧
      m.updated.data.stableCycles = m.withError.nextStable ∧
      m.updated.data.completedMoves = m.data.completedMoves := by
  have hd' : m.withError.data.state = .moving ∨ m.withError.data.state = .stopping := hd
  have h' : ¬ m.withError.config.dwellCycles ≤ m.withError.nextStable := h
  unfold MotionController.updated MotionController.dwell
  rw [if_pos hd', if_neg h']
  exact ⟨rfl, rfl, rfl⟩

omit [Rounding] in
/-- An accepted `STOP` clears the counter when it interrupts a move. -/
lemma halt_stableCycles (m : MotionController) :
    m.halt.data.stableCycles = if m.data.state = .moving then 0 else m.data.stableCycles := by
  unfold MotionController.halt MotionController.dropDemand
  dsimp only
  split_ifs <;> rfl

/-- The band of an update that passes its check is the one that `motion_update` computes. -/
lemma holdsBand_of_checked (h : x.refusesUpdate dt = false) :
    x.holdsBand dt = x.motion.withError.inBand := by
  unfold Axis.holdsBand
  rw [h]
  rfl

/-- A made update counts the streak that it leaves; the counter does not wrap, because it stays
below `dwell_cycles`. -/
lemma nextStable_toNat (hw : DwellCounts c x history) (hd : x.dwelling)
    (hchecked : x.refusesUpdate dt = false) :
    x.motion.withError.nextStable.toNat = Streak.length (x.holdsBand dt :: history) := by
  rw [holdsBand_of_checked hchecked]
  unfold MotionController.nextStable
  have hcounter : x.motion.withError.data.stableCycles.toNat = Streak.length history :=
    hw.counter hd
  cases x.motion.withError.inBand with
  | false => rfl
  | true =>
    have hshort := (hw.never hd).length_lt
    have htop := c.dwellCycles.toNat_lt
    rw [if_pos rfl, Streak.length_true, UInt32.toNat_add, hcounter]
    exact Nat.mod_eq_of_lt (by simp; omega)

/-- A made update ends the dwell exactly when it ends the first streak. -/
lemma endsFirst_iff (hw : DwellCounts c x history) (hd : x.dwelling)
    (hchecked : x.refusesUpdate dt = false) :
    Streak.EndsFirst c.dwellCycles.toNat (x.holdsBand dt :: history) ↔
      x.motion.config.dwellCycles ≤ x.motion.withError.nextStable := by
  rw [Streak.endsFirst_cons (hw.never hd), ← nextStable_toNat hw hd hchecked, hw.config,
    UInt32.le_iff_toNat_le]

/-- An update that is refused ends no streak. -/
lemma not_endsFirst_of_refused (hc : 0 < c.dwellCycles.toNat) (h : x.refusesUpdate dt = true) :
    ¬ Streak.EndsFirst c.dwellCycles.toNat (x.holdsBand dt :: history) := by
  have hout : x.holdsBand dt = false := by simp [Axis.holdsBand, h]
  rw [hout]
  rintro ⟨hends, -⟩
  rw [Streak.ends_iff, Streak.length_false] at hends
  omega

/-! ### The counter along a run -/

omit [Rounding] in
/-- A controller that does not dwell agrees with every history. -/
lemma dwellCounts_of_idle (hconfig : x.motion.config = c) (hinit : x.motion.initialized = true)
    (h : x.motion.data.state = .idle) : DwellCounts c x history := by
  have hnot : ¬ x.dwelling := by simp [Axis.dwelling, h]
  exact ⟨hconfig, hinit, fun hd => absurd hd hnot, fun hd => absurd hd hnot⟩

omit [Rounding] in
/-- A controller that has just started to count. -/
lemma dwellCounts_of_start (hc : 0 < c.dwellCycles.toNat) (hconfig : x.motion.config = c)
    (hinit : x.motion.initialized = true) (h : x.motion.data.stableCycles = 0) :
    DwellCounts c x [] :=
  ⟨hconfig, hinit, fun _ => Streak.never_nil hc, fun _ => by rw [h]; rfl⟩

omit [Rounding] in
/-- A controller with the same state and counter. -/
lemma DwellCounts.congr {y : Axis} (hw : DwellCounts c x history)
    (hconfig : y.motion.config = x.motion.config)
    (hinit : y.motion.initialized = x.motion.initialized)
    (hstate : y.motion.data.state = x.motion.data.state)
    (hcounter : y.motion.data.stableCycles = x.motion.data.stableCycles) :
    DwellCounts c y history := by
  have hsame : y.dwelling ↔ x.dwelling := by rw [Axis.dwelling, Axis.dwelling, hstate]
  refine ⟨hconfig.trans hw.config, hinit.trans hw.initialized, fun hd => ?_, fun hd => ?_⟩
  · exact hw.never (hsame.mp hd)
  · rw [hcounter]
    exact hw.counter (hsame.mp hd)

/-- The dwell part of an update keeps the agreement. -/
lemma DwellCounts.updated (hw : DwellCounts c x history) (hchecked : x.refusesUpdate dt = false) :
    DwellCounts c { x with motion := x.motion.updated } (x.holdsBand dt :: history) := by
  have hkeeps := updated_keeps x.motion
  have hconfig : x.motion.updated.config = c := hkeeps.config.trans hw.config
  have hinit : x.motion.updated.initialized = true := hkeeps.initialized.trans hw.initialized
  by_cases hd : x.dwelling
  · by_cases hdone : x.motion.config.dwellCycles ≤ x.motion.withError.nextStable
    · exact dwellCounts_of_idle hconfig hinit (updated_of_done hd hdone).1
    · obtain ⟨-, hcounter, -⟩ := updated_of_not_done hd hdone
      have hnext := nextStable_toNat hw hd hchecked
      have hlt : Streak.length (x.holdsBand dt :: history) < c.dwellCycles.toNat := by
        rw [← hnext, ← hw.config]
        exact UInt32.lt_iff_toNat_lt.mp (UInt32.not_le.mp hdone)
      refine ⟨hconfig, hinit, fun _ => Streak.never_cons_of_lt (hw.never hd) hlt, fun _ => ?_⟩
      change x.motion.updated.data.stableCycles.toNat = _
      rw [hcounter, hnext]
  · have hstate : x.motion.updated.data.state = x.motion.data.state :=
      (updated_state x.motion).resolve_right fun h => hd h.1
    have hnot : ¬ ({ x with motion := x.motion.updated } : Axis).dwelling := by
      rw [Axis.dwelling, hstate]
      exact hd
    exact ⟨hconfig, hinit, fun h => absurd h hnot, fun h => absurd h hnot⟩

/-- A call that is no update keeps the history, or starts a new one. -/
lemma observeBand_of_result {c : MotionCommand} {r : MotionResult}
    (h : (MotionCall.command c).result x = .commanded r) :
    (MotionCall.command c).observeBand x history =
      if r = .accepted ∧ (c.type ≠ .stop ∨ x.motion.data.state = .moving) then [] else history := by
  have hr : (motionCommand x c).1 = r := CallResult.commanded.inj h
  simp [MotionCall.observeBand, MotionCall.restarts, hr]

/-- **Step lemma.**  Every call keeps the agreement of the counter with the history. -/
theorem dwellCounts_step (hc : 0 < c.dwellCycles.toNat) (hw : DwellCounts c x history) :
    DwellCounts c (call.step x) (call.observeBand x history) := by
  have heffect := call.effect x
  generalize hresult : call.result x = r at heffect
  generalize call.step x = y at heffect ⊢
  cases heffect with
  | @failed _ y frame kind cause =>
    have hinit : y.motion.initialized = true := frame.initialized.trans hw.initialized
    refine dwellCounts_of_idle ?_ ?_ ?_
    · exact (Axis.Frame.fail frame).config.trans hw.config
    · exact (Axis.Frame.fail frame).initialized.trans hw.initialized
    · rw [fail_state, if_pos hinit]
  | sampled => exact hw.congr rfl rfl rfl rfl
  | refused hrefused =>
    rw [observeBand_of_result hresult, if_neg fun h => hrefused h.1]
    exact hw
  | halted htype =>
    have hkeeps := halt_keeps x.motion
    rw [observeBand_of_result hresult]
    by_cases hmoving : x.motion.data.state = .moving
    · rw [if_pos ⟨rfl, Or.inr hmoving⟩]
      refine dwellCounts_of_start hc (hkeeps.config.trans hw.config)
        (hkeeps.initialized.trans hw.initialized) ?_
      rw [halt_stableCycles, if_pos hmoving]
    · rw [if_neg fun h => h.2.elim (fun hne => hne htype) hmoving]
      refine hw.congr hkeeps.config hkeeps.initialized ?_ ?_
      · rw [halt_state, if_neg hmoving]
      · rw [halt_stableCycles, if_neg hmoving]
  | @started command htype hidle hvalid hrange =>
    have hne : command.type ≠ .stop := by
      rcases htype with h | h <;> simp [h]
    rw [observeBand_of_result hresult, if_pos ⟨rfl, Or.inl hne⟩]
    exact dwellCounts_of_start hc hw.config hw.initialized rfl
  | rested hchecked => exact (hw.updated hchecked).congr rfl rfl rfl rfl
  | drove hchecked => exact (hw.updated hchecked).congr rfl rfl rfl rfl

/-- The counter agrees with the history after every run from `motion_init`. -/
lemma dwellCounts_run {x₀ : Axis} (h : motionInit x c = some x₀) (calls : List MotionCall) :
    0 < c.dwellCycles.toNat ∧
      DwellCounts c (Machine.run MotionCall.step x₀ calls) (bandHistory x₀ calls) := by
  obtain ⟨hvalid, pid, -, rfl⟩ := motionInit_some h
  have hc : 0 < c.dwellCycles.toNat := by
    simp only [MotionConfig.valid, Bool.and_eq_true, bne_iff_ne, ne_eq] at hvalid
    have hne : c.dwellCycles ≠ 0 := by tauto
    exact Nat.pos_of_ne_zero fun h0 => hne (UInt32.toNat_inj.mp h0)
  refine ⟨hc, Machine.watch_invariant (P := fun _ _ => True)
    (fun _ _ _ hv _ => dwellCounts_step hc hv) ?_ (Machine.along_of_forall fun _ _ => trivial)⟩
  exact dwellCounts_of_idle rfl rfl rfl

/-- What a call does to the state and to the count of completed moves, given the history. -/
structure DwellRule (c : MotionConfig) (call : MotionCall) (x : Axis) (history : List Bool) :
    Prop where
  /-- In `MOVING` the first streak completes the move. -/
  completes : x.motion.data.state = .moving → call.EndsDwell x c.dwellCycles.toNat history →
    (call.step x).motion.data.completedMoves = x.motion.data.completedMoves + 1 ∧
      (call.step x).motion.data.state = .idle
  /-- Nothing else counts a move. -/
  counts : ¬ (x.motion.data.state = .moving ∧ call.EndsDwell x c.dwellCycles.toNat history) →
    (call.step x).motion.data.completedMoves = x.motion.data.completedMoves
  /-- In `STOPPING` the first streak is what leads to `IDLE`, apart from a failure. -/
  stops : x.motion.data.state = .stopping →
    (call.EndsDwell x c.dwellCycles.toNat history ↔
      ¬ call.Fails x ∧ (call.step x).motion.data.state = .idle)
  /-- There is no other way to `IDLE`. -/
  only : x.dwelling → (call.step x).motion.data.state = .idle →
    call.Fails x ∨ call.EndsDwell x c.dwellCycles.toNat history

/-- While the controller dwells, the update that ends the first streak is one that passes its check
and fills the counter. -/
lemma endsDwell_iff (hc : 0 < c.dwellCycles.toNat) (hw : DwellCounts c x history)
    (hd : x.dwelling) :
    call.EndsDwell x c.dwellCycles.toNat history ↔
      ∃ dt, call = .update dt ∧ x.refusesUpdate dt = false ∧
        x.motion.config.dwellCycles ≤ x.motion.withError.nextStable := by
  constructor
  · rintro ⟨dt, rfl, hfirst⟩
    have hchecked : x.refusesUpdate dt = false := by
      by_contra hrefused
      exact not_endsFirst_of_refused hc (by simpa using hrefused) hfirst
    exact ⟨dt, rfl, hchecked, (endsFirst_iff hw hd hchecked).mp hfirst⟩
  · rintro ⟨dt, rfl, hchecked, hdone⟩
    exact ⟨dt, rfl, (endsFirst_iff hw hd hchecked).mpr hdone⟩

/-- The update that ends the first streak succeeds and leads to `IDLE`. -/
lemma step_of_endsDwell (hc : 0 < c.dwellCycles.toNat) (hw : DwellCounts c x history)
    (hd : x.dwelling) (h : call.EndsDwell x c.dwellCycles.toNat history) :
    ¬ call.Fails x ∧ (call.step x).motion.data.state = .idle ∧
      (call.step x).motion.data.completedMoves =
        if x.motion.data.state = .moving then x.motion.data.completedMoves + 1
        else x.motion.data.completedMoves := by
  obtain ⟨dt, rfl, hchecked, hdone⟩ := (endsDwell_iff hc hw hd).mp h
  obtain ⟨hidle, hmoves⟩ := updated_of_done hd hdone
  have hrest : motionUpdate x dt = (true, motionRest { x with motion := x.motion.updated }) := by
    rw [motionUpdate_checked hchecked, if_neg (by simp [hidle])]
  have hperform : (MotionCall.update dt).perform x =
      (.returned true, motionRest { x with motion := x.motion.updated }) := by
    rw [MotionCall.perform, hrest]
  refine ⟨?_, ?_, ?_⟩
  · simp [MotionCall.Fails, MotionCall.result, hperform]
  · rw [MotionCall.step, hperform]
    exact hidle
  · rw [MotionCall.step, hperform]
    exact hmoves

/-- Any other call counts no move and, while the controller dwells, leads to `IDLE` only by
failing. -/
lemma step_of_not_endsDwell (hc : 0 < c.dwellCycles.toNat) (hw : DwellCounts c x history)
    (h : ¬ (x.dwelling ∧ call.EndsDwell x c.dwellCycles.toNat history)) :
    (call.step x).motion.data.completedMoves = x.motion.data.completedMoves ∧
      (x.dwelling → (call.step x).motion.data.state = .idle → call.Fails x) := by
  have hnotDone : ∀ {dt}, call = .update dt → x.refusesUpdate dt = false → x.dwelling →
      ¬ x.motion.config.dwellCycles ≤ x.motion.withError.nextStable :=
    fun hcall hchecked hd hdone =>
      h ⟨hd, (endsDwell_iff hc hw hd).mpr ⟨_, hcall, hchecked, hdone⟩⟩
  have hbusy : x.dwelling → x.motion.data.state ≠ .idle := by
    rintro (hd | hd) <;> simp [hd]
  -- what a made update without the end of a dwell leaves
  have hupdated : ∀ {dt}, call = .update dt → x.refusesUpdate dt = false →
      x.motion.updated.data.completedMoves = x.motion.data.completedMoves ∧
        (x.dwelling → x.motion.updated.data.state ≠ .idle) := by
    intro dt hcall hchecked
    by_cases hd : x.dwelling
    · obtain ⟨hstate, -, hmoves⟩ := updated_of_not_done hd (hnotDone hcall hchecked hd)
      exact ⟨hmoves, fun _ => hstate ▸ hbusy hd⟩
    · rw [updated_completedMoves, if_neg fun hm => hd (Or.inl hm.1)]
      exact ⟨rfl, fun hd' => absurd hd' hd⟩
  have heffect := call.effect x
  unfold MotionCall.Fails
  generalize call.result x = r at heffect ⊢
  generalize call.step x = y at heffect ⊢
  cases heffect with
  | failed frame => exact ⟨(Axis.Frame.fail frame).completedMoves, fun _ _ => rfl⟩
  | sampled => exact ⟨rfl, fun hd hidle => absurd hidle (hbusy hd)⟩
  | refused => exact ⟨rfl, fun hd hidle => absurd hidle (hbusy hd)⟩
  | halted htype =>
    refine ⟨halt_completedMoves x.motion, fun hd hidle => ?_⟩
    have hstate := halt_state x.motion
    rw [show x.motion.halt.data.state = .idle from hidle] at hstate
    split_ifs at hstate
    exact absurd hstate.symm (hbusy hd)
  | started => exact ⟨rfl, fun _ hidle => absurd hidle (by simp [MotionController.start])⟩
  | rested hchecked =>
    obtain ⟨hmoves, hstate⟩ := hupdated rfl hchecked
    exact ⟨hmoves, fun hd hidle => absurd hidle (hstate hd)⟩
  | drove hchecked =>
    obtain ⟨hmoves, hstate⟩ := hupdated rfl hchecked
    exact ⟨hmoves, fun hd hidle => absurd hidle (hstate hd)⟩

/-- The rule holds of every call whose axis agrees with the history. -/
theorem dwellRule_of_counts (hc : 0 < c.dwellCycles.toNat) (hw : DwellCounts c x history) :
    DwellRule c call x history where
  completes hmoving hends := by
    obtain ⟨-, hidle, hmoves⟩ := step_of_endsDwell hc hw (Or.inl hmoving) hends
    rw [if_pos hmoving] at hmoves
    exact ⟨hmoves, hidle⟩
  counts hnot := by
    by_cases hends : x.dwelling ∧ call.EndsDwell x c.dwellCycles.toNat history
    · obtain ⟨-, -, hmoves⟩ := step_of_endsDwell hc hw hends.1 hends.2
      rwa [if_neg fun hmoving => hnot ⟨hmoving, hends.2⟩] at hmoves
    · exact (step_of_not_endsDwell hc hw hends).1
  stops hstopping := by
    have hd : x.dwelling := Or.inr hstopping
    constructor
    · intro hends
      obtain ⟨hok, hidle, -⟩ := step_of_endsDwell hc hw hd hends
      exact ⟨hok, hidle⟩
    · rintro ⟨hok, hidle⟩
      by_contra hnot
      exact hok ((step_of_not_endsDwell hc hw fun h => hnot h.2).2 hd hidle)
  only hd hidle := by
    by_cases hends : call.EndsDwell x c.dwellCycles.toNat history
    · exact Or.inr hends
    · exact Or.inl ((step_of_not_endsDwell hc hw fun h => hends h.2).2 hd hidle)

/-- **The dwell rule.**  After every run from `motion_init`, a call counts one completed move and
enters `IDLE` if the state is `MOVING` and the call is the first update since the `MOVE` to end a
streak of `dwell_cycles` updates in the band; no other call counts.  `STOPPING` ends in the same
way, by velocity alone, since the `STOP`, and apart from a failing call there is no other way to
`IDLE`. The count of completed moves is a 32-bit number. -/
theorem completion_is_dwell_rule {x₀ : Axis} (h : motionInit x c = some x₀)
    (calls : List MotionCall) (call : MotionCall) :
    DwellRule c call (Machine.run MotionCall.step x₀ calls) (bandHistory x₀ calls) := by
  obtain ⟨hc, hw⟩ := dwellCounts_run h calls
  exact dwellRule_of_counts hc hw

omit [Rounding] in
/-- A move to the position at which the bench stands. -/
theorem completion_is_dwell_rule_bench :
    @DwellRule Binary32.rounding defaultConfig32 (.update (.finite (1 / 100)))
      (Machine.run (@MotionCall.step Binary32.rounding) (startedBench fun _ => 1000)
        [.sample (.finite (1 / 100)), .command ⟨.moveAbs, 1000⟩])
      (@bandHistory Binary32.rounding (startedBench fun _ => 1000)
        [.sample (.finite (1 / 100)), .command ⟨.moveAbs, 1000⟩]) :=
  @completion_is_dwell_rule Binary32.rounding defaultConfig32 (bench fun _ => 1000)
    (startedBench fun _ => 1000) (motionInit_bench _)
    [.sample (.finite (1 / 100)), .command ⟨.moveAbs, 1000⟩] (.update (.finite (1 / 100)))

end MotionFirmware
