import MotionFirmware.Rtos.HomingDeadline
import MotionFirmware.Rtos.HomingRecord
import MotionFirmware.Rtos.Integrity
import MotionFirmware.Safety.FaultRecord

/-!
# The outcomes of a motion

What the sections of the Motion task do to the state of the controller and to the three counters of
outcomes: the completed moves, the completed homings and the aborted motions.

`++aborted_moves` stands at four places.  A latch that is adopted counts an active motion and leaves
it inactive, so that two adoptions in a row count once; a failed sample and a failed `motion_update`
leave the controller in `IDLE` before the latch is adopted.  A failed `homing_update` does not: the
adoption that follows counts the attempt again.
-/

namespace MotionFirmware

variable {w v u : World}

/-- The counters of outcomes. -/
@[ext]
structure Tally where
  completedMoves : UInt32
  homed : UInt32
  abortedMoves : UInt32

namespace Tally

/-- A motion is counted as aborted. -/
def abort (t : Tally) : Tally := { t with abortedMoves := t.abortedMoves + 1 }

/-- The motion of a controller in the given state is counted as aborted, if there is one. -/
def interrupt (t : Tally) (state : AppState) : Tally := if state.active then t.abort else t

/-- The motion of a controller in the given state is counted as completed. -/
def complete (t : Tally) (state : AppState) : Tally :=
  if state = .homing then { t with homed := t.homed + 1 }
  else { t with completedMoves := t.completedMoves + 1 }

variable {t : Tally} {state : AppState}

lemma interrupt_of_active (h : state.active = true) : t.interrupt state = t.abort := if_pos h

lemma interrupt_of_inactive (h : state.active = false) : t.interrupt state = t :=
  if_neg (by rw [h]; exact nofun)

lemma interrupt_completedMoves (t : Tally) (state : AppState) :
    (t.interrupt state).completedMoves = t.completedMoves := by
  unfold interrupt
  split_ifs <;> rfl

lemma interrupt_homed (t : Tally) (state : AppState) : (t.interrupt state).homed = t.homed := by
  unfold interrupt
  split_ifs <;> rfl

end Tally

/-- The outcomes that have been counted. -/
def World.tally (w : World) : Tally :=
  ⟨w.motion.data.completedMoves, w.motion.data.homing.completed, w.safety.abortedMoves⟩

/-- The controller and the count of aborted motions are the same. -/
structure World.SameOutcome (w v : World) : Prop where
  motion : v.motion = w.motion
  aborted : v.safety.abortedMoves = w.safety.abortedMoves

lemma World.SameOutcome.tally (h : w.SameOutcome v) : v.tally = w.tally := by
  unfold World.tally
  rw [h.motion, h.aborted]

lemma World.SameOutcome.trans (h : w.SameOutcome v) (h' : v.SameOutcome u) : w.SameOutcome u :=
  ⟨h'.motion.trans h.motion, h'.aborted.trans h.aborted⟩

/-- A call of the safety manager followed by an enforcement. -/
lemma sameOutcome_call {call : SafetyCall} {s : SafetyManager}
    (hs : s.abortedMoves = w.safety.abortedMoves) :
    w.SameOutcome (runtimeSafetyEnforce (w.callSafety call s)) :=
  ⟨by simp, by simpa using hs⟩

lemma sameOutcome_raiseInternal (w : World) (now : UInt32) :
    w.SameOutcome (raiseInternal w now) :=
  sameOutcome_call (by simp [safetyInternalFault])

lemma sameOutcome_raiseTimeout (w : World) (now : UInt32) :
    w.SameOutcome (raiseTimeout w now) :=
  sameOutcome_call (by simp [safetyHomingTimeout])

lemma sameOutcome_raiseEstop (w : World) : w.SameOutcome (raiseEstop w) := by
  refine ⟨by simp, ?_⟩
  unfold raiseEstop safetyEstop
  dsimp only
  split_ifs <;> simp

lemma sameOutcome_evaluate [Rounding] (w : World) : w.SameOutcome (runtimeSafetyEvaluate w) :=
  ⟨by simp, by simp [runtimeSafetyEvaluate_safety]⟩

/-! ### Adopting a latch -/

/-- The state and the outcomes are kept, or a latch is adopted and an active motion counted. -/
inductive World.Adopts (w v : World) : Prop
  | keeps (state : v.motion.data.state = w.motion.data.state) (tally : v.tally = w.tally)
  | latches (state : v.motion.data.state = .fault ∨ v.motion.data.state = .estop)
      (tally : v.tally = w.tally.interrupt w.motion.data.state)

lemma World.Adopts.of_same (h : w.SameOutcome v) : w.Adopts v :=
  .keeps (by rw [h.motion]) h.tally

lemma active_of_latched {state : AppState} (h : state = .fault ∨ state = .estop) :
    state.active = false := by
  rcases h with rfl | rfl <;> rfl

/-- Two adoptions in a row count once. -/
lemma World.Adopts.trans (h : w.Adopts v) (h' : v.Adopts u) : w.Adopts u := by
  cases h with
  | keeps hstate htally =>
    cases h' with
    | keeps hstate' htally' => exact .keeps (hstate'.trans hstate) (htally'.trans htally)
    | latches hstate' htally' => exact .latches hstate' (by rw [htally', htally, hstate])
  | latches hstate htally =>
    have hrest := active_of_latched hstate
    cases h' with
    | keeps hstate' htally' => exact .latches (hstate' ▸ hstate) (htally'.trans htally)
    | latches hstate' htally' =>
      refine .latches hstate' ?_
      rw [htally', Tally.interrupt_of_inactive hrest, htally]

/-- What the adoption of a latch does. -/
lemma tally_runtimeSafetySync (hs : w.safety.Settled) (h : w.safety.state ≠ .idle) :
    ((runtimeSafetySync w).motion.data.state = .fault ∨
      (runtimeSafetySync w).motion.data.state = .estop) ∧
      (runtimeSafetySync w).tally = w.tally.interrupt w.motion.data.state := by
  have hstate := runtimeSafetySync_state h
  have haborted : (runtimeSafetySync w).safety.abortedMoves =
      (w.tally.interrupt w.motion.data.state).abortedMoves := by
    change (runtimeSafetySync w).rt.safety.abortedMoves = _
    rw [runtimeSafetySync_safety]
    cases hactive : w.motion.data.state.active with
    | true => simp [h, Tally.interrupt_of_active hactive, Tally.abort, World.tally]
    | false => simp [Tally.interrupt_of_inactive hactive, World.tally]
  refine ⟨hstate ▸ hs.resolve_left h, Tally.ext ?_ ?_ haborted⟩
  · exact (runtimeSafetySync_sampling w).2.2.2.2.2.trans (w.tally.interrupt_completedMoves _).symm
  · exact (sameAttempt_runtimeSafetySync w).homing.completed.trans (w.tally.interrupt_homed _).symm

lemma adopts_sync (hs : w.safety.Settled) : w.Adopts (runtimeSafetySync w) := by
  by_cases hidle : w.safety.state = .idle
  · rw [runtimeSafetySync_of_idle hidle]
    exact .keeps rfl rfl
  · obtain ⟨hstate, htally⟩ := tally_runtimeSafetySync hs hidle
    exact .latches hstate htally

/-- Adopting what a call of the safety manager has left. -/
lemma adopts_after (h : w.SameOutcome v) (hs : v.safety.Settled) :
    w.Adopts (runtimeSafetySync v) :=
  (World.Adopts.of_same h).trans (adopts_sync hs)

/-- A latched controller stays latched, and counts nothing more. -/
lemma World.Adopts.of_latched (h : w.Adopts v)
    (hw : w.motion.data.state = .fault ∨ w.motion.data.state = .estop) :
    (v.motion.data.state = .fault ∨ v.motion.data.state = .estop) ∧ v.tally = w.tally := by
  cases h with
  | keeps hstate htally => exact ⟨hstate ▸ hw, htally⟩
  | latches hstate htally =>
    exact ⟨hstate, htally.trans (Tally.interrupt_of_inactive (active_of_latched hw))⟩

/-! ### Commands -/

variable [Rounding] {command : MotionCommand}

omit [Rounding] in
lemma settled_raiseEstop (w : World) : (raiseEstop w).safety.Settled := Or.inr (Or.inr (by simp))

lemma settled_evaluate (hs : w.safety.Settled) : (runtimeSafetyEvaluate w).safety.Settled := by
  have := hs.safetyEvaluate (c := evaluation w)
  simpa [SafetyManager.Settled] using this

lemma sameOutcome_evaluate_publish (w : World) :
    w.SameOutcome (runtimeSafetyEvaluate w.publish) := by
  have hsame := sameOutcome_evaluate w.publish
  exact ⟨hsame.motion, hsame.aborted⟩

lemma adopts_reevaluate (hs : w.safety.Settled) : w.Adopts (reevaluate w) :=
  adopts_after (sameOutcome_evaluate_publish w) (settled_evaluate hs)

/-- Showing the state to the safety manager keeps the outcomes unless it leads to a latch. -/
lemma sameOutcome_reevaluate (h : (reevaluate w).safety.state = .idle) :
    w.SameOutcome (reevaluate w) := by
  have hidle : (runtimeSafetyEvaluate w.publish).safety.state = .idle := by
    simpa [reevaluate] using h
  rw [reevaluate, runtimeSafetySync_of_idle hidle]
  exact sameOutcome_evaluate_publish w

/-- What a latch does that showing the state to the safety manager leads to. -/
lemma tally_reevaluate (hs : w.safety.Settled) (h : (reevaluate w).safety.state ≠ .idle) :
    ((reevaluate w).motion.data.state = .fault ∨ (reevaluate w).motion.data.state = .estop) ∧
      (reevaluate w).tally = w.tally.interrupt w.motion.data.state := by
  have hsame := sameOutcome_evaluate_publish w
  have hne : (runtimeSafetyEvaluate w.publish).safety.state ≠ .idle := by
    simpa [reevaluate] using h
  have hlatch := tally_runtimeSafetySync (settled_evaluate (w := w.publish) hs) hne
  rw [hsame.tally, hsame.motion] at hlatch
  exact hlatch

/-- The `STOP` of a `HOME`, which counts the attempt. -/
def World.cancels (w : World) (command : MotionCommand) : Bool :=
  command.type == .stop && w.safety.state == .idle && w.motion.data.state == .homing

/-- The departure branch with a target that lies ahead. -/
def World.departs (w : World) (command : MotionCommand) : Bool :=
  ((w.safety.state == .idle && !w.io.motor.inhibited) || w.parkedHome) &&
    (command.type == .moveAbs || command.type == .moveRel) && w.safety.homeContact &&
    decide (w.motion.data.position.toInt < motionTarget w.motion command)

/-- A command that adopts a latch without starting a motion: an `ESTOP`, or a departure that the
controller refuses after the gate has let it pass. -/
def World.latchedBy (w : World) (command : MotionCommand) : Bool :=
  command.type == .estop ||
    (w.departs command && (reevaluate w).safety.state != .idle)

/-- What a command does to the state and to the outcomes. -/
inductive CommandOutcome (w : World) (command : MotionCommand) (r : MotionResult × World) : Prop
  /-- Nothing that counts. -/
  | keeps (state : r.2.motion.data.state = w.motion.data.state) (tally : r.2.tally = w.tally)
      (refused : r.1 = .accepted → command.type.startsMotion = false)
      (cancels : w.cancels command = false)
  /-- A latch is adopted. -/
  | latches (state : r.2.motion.data.state = .fault ∨ r.2.motion.data.state = .estop)
      (tally : r.2.tally = w.tally.interrupt w.motion.data.state)
      (refused : r.1 = .accepted → command.type.startsMotion = false)
      (cancels : w.cancels command = false)
      (latched : w.latchedBy command = true)
  /-- An accepted `RESET`. -/
  | resets (type : command.type = .reset) (accepted : r.1 = .accepted)
      (state : r.2.motion.data.state = .idle) (tally : r.2.tally = w.tally)
  /-- The `STOP` of a `HOME`. -/
  | cancels (cancels : w.cancels command = true)
      (state : r.2.motion.data.state = .stopping) (tally : r.2.tally = w.tally.abort)
  /-- The `STOP` of a move. -/
  | halts (type : command.type = .stop) (moving : w.motion.data.state = .moving)
      (state : r.2.motion.data.state = .stopping) (tally : r.2.tally = w.tally)
  /-- A motion is accepted, and goes on or is latched at once. -/
  | starts (accepted : r.1 = .accepted) (type : command.type.startsMotion = true)
      (idle : w.motion.data.state = .idle)
      (next : r.2.motion.data.state = (if command.type = .home then .homing else .moving) ∧
          r.2.tally = w.tally ∨
        (r.2.motion.data.state = .fault ∨ r.2.motion.data.state = .estop) ∧
          r.2.tally = w.tally.abort)

omit [Rounding] in
lemma World.cancels_of_type (h : command.type ≠ .stop) : w.cancels command = false := by
  unfold World.cancels
  simp [h]

/-- The `ESTOP` branch. -/
lemma commandEstop_outcome (htype : command.type = .estop) :
    CommandOutcome w command (.accepted, commandEstop w) := by
  have hsame := sameOutcome_raiseEstop w
  obtain ⟨hstate, htally⟩ := tally_runtimeSafetySync (settled_raiseEstop w) (by simp)
  rw [hsame.tally, hsame.motion] at htally
  refine .latches hstate htally (fun _ => ?_) (w.cancels_of_type ?_) ?_
  · rw [htype]
    rfl
  · rw [htype]
    exact nofun
  · unfold World.latchedBy
    simp [htype]

/-- The `RESET` branch. -/
lemma commandReset_outcome (htype : command.type = .reset) :
    CommandOutcome w command (commandReset w) := by
  have hcancels : w.cancels command = false := w.cancels_of_type (by rw [htype]; exact nofun)
  have hstarts : command.type.startsMotion = false := by
    rw [htype]
    rfl
  have hsame := sameOutcome_evaluate w
  unfold commandReset
  split_ifs
  · exact .keeps rfl rfl (fun _ => hstarts) hcancels
  · generalize runtimeSafetyEvaluate w = v at hsame ⊢
    dsimp only
    cases h : safetyReset v.safety with
    | none =>
      have hcall : w.SameOutcome (v.callSafety .reset v.safety) := hsame.trans ⟨rfl, rfl⟩
      exact .keeps (by rw [hcall.motion]) hcall.tally (fun _ => hstarts) hcancels
    | some s =>
      obtain ⟨-, rfl⟩ := safetyReset_eq_some.mp h
      have hreset : v.SameOutcome (v.callSafety .reset v.safety.cleared) := ⟨rfl, rfl⟩
      exact .resets htype rfl rfl (hsame.trans hreset).tally

/-- The `STOP` of a `HOME`. -/
lemma commandStopHoming_outcome (h : w.cancels command = true) :
    CommandOutcome w command (.accepted, commandStopHoming w) :=
  .cancels h rfl (Tally.ext rfl (sameAttempt_abort w.motion _ _).completed rfl)

/-- A motion that is accepted goes on, or is latched when its state is shown to the safety
manager. -/
lemma starts_outcome {r : MotionResult × World} (haccepted : r.1 = .accepted)
    (htype : command.type.startsMotion = true) (hidle : w.motion.data.state = .idle)
    (hstate : v.motion.data.state = if command.type = .home then .homing else .moving)
    (htally : v.tally = w.tally) (h : v.Adopts r.2) : CommandOutcome w command r := by
  refine .starts haccepted htype hidle ?_
  cases h with
  | keeps hstate' htally' => exact Or.inl ⟨hstate'.trans hstate, htally'.trans htally⟩
  | latches hstate' htally' =>
    have hactive : v.motion.data.state.active = true := by
      rw [hstate]
      split_ifs <;> rfl
    rw [Tally.interrupt_of_active hactive, htally] at htally'
    exact Or.inr ⟨hstate', htally'⟩

/-- The `HOME` branch. -/
lemma commandHome_outcome (hs : w.safety.Settled) (htype : command.type = .home) :
    CommandOutcome w command (commandHome w) := by
  by_cases h : (homingBegin w.afterTime.toAxis w.io.platformTimeMs).1 = .accepted
  · obtain ⟨hidle, -, -, heq⟩ := homingBegin_accepted h
    have hresult : (commandHome w).1 = .accepted := h
    have hworld : (commandHome w).2 = reevaluate { w.afterTime with
        toAxis := (homingBegin w.afterTime.toAxis w.io.platformTimeMs).2 } := if_pos h
    refine starts_outcome (v := { w.afterTime with
      toAxis := (homingBegin w.afterTime.toAxis w.io.platformTimeMs).2 }) hresult ?_ hidle ?_ ?_ ?_
    · rw [htype]
      rfl
    · rw [heq, htype]
      rfl
    · unfold World.tally
      rw [heq]
      rfl
    · rw [hworld]
      exact adopts_reevaluate hs
  · have hsame : (homingBegin w.afterTime.toAxis w.io.platformTimeMs).2 = w.afterTime.toAxis := by
      unfold homingBegin at h ⊢
      split_ifs at h ⊢ <;> first | rfl | exact absurd rfl h
    have hworld : (commandHome w).2 = w.afterTime.publish := by
      simp only [commandHome, if_neg h, hsame]
    have hcommand : w.SameOutcome (commandHome w).2 := by
      rw [hworld]
      exact ⟨rfl, rfl⟩
    exact .keeps (by rw [hcommand.motion]) hcommand.tally (fun hacc => absurd hacc h)
      (w.cancels_of_type (by rw [htype]; decide))

/-- A command of `motion_command`. -/
lemma motionCommand_outcome (hcancels : w.cancels command = false) :
    CommandOutcome w command ((motionCommand w.toAxis command).1,
      { w with toAxis := (motionCommand w.toAxis command).2 }) := by
  rcases motionCommand_cases w.toAxis command with ⟨hrefused, heq⟩ | ⟨htype, heq⟩ |
    ⟨htype, hidle, -, -, heq⟩
  · rw [heq]
    exact .keeps rfl rfl (fun hacc => absurd hacc hrefused) hcancels
  · have htally : World.tally { w with
        toAxis := { io := w.io.motorDisable, motion := w.motion.halt } } = w.tally := by
      unfold World.tally MotionController.halt MotionController.dropDemand
      dsimp only
      split_ifs <;> rfl
    rw [heq]
    by_cases hmoving : w.motion.data.state = .moving
    · refine .halts htype hmoving ?_ htally
      exact (halt_state w.motion).trans (if_pos hmoving)
    · refine .keeps ((halt_state w.motion).trans (if_neg hmoving)) htally (fun _ => ?_) hcancels
      rw [htype]
      rfl
  · rw [heq]
    refine starts_outcome (v := { w with
      motion := w.motion.start (motionTarget w.motion command) }) rfl ?_ hidle ?_ rfl
      (.keeps rfl rfl)
    · rcases htype with h | h <;> rw [h] <;> rfl
    · rcases htype with h | h <;> rw [h] <;> rfl

/-- The departure branch. -/
lemma commandDepart_outcome (hs : w.safety.Settled)
    (hopen : ¬ ((w.safety.state ≠ .idle ∨ w.io.motor.inhibited) ∧ !w.parkedHome))
    (hcontact : w.safety.homeContact = true)
    (htype : command.type = .moveAbs ∨ command.type = .moveRel) :
    CommandOutcome w command (commandDepart w command) := by
  have hcancels : w.cancels command = false :=
    w.cancels_of_type (by rcases htype with h | h <;> rw [h] <;> exact nofun)
  unfold commandDepart
  split_ifs with htarget
  · exact .keeps rfl rfl nofun hcancels
  · have hdeparts : w.departs command = true := by
      unfold World.departs
      have hahead : w.motion.data.position.toInt < motionTarget w.motion command :=
        not_le.mp htarget
      have hgate : w.rt.safety.state = .idle ∧ w.io.motor.inhibited = false ∨
          w.parkedHome = true := by
        by_cases hparked : w.parkedHome = true
        · exact Or.inr hparked
        · simpa [hparked] using hopen
      rcases htype with h | h <;> simpa [h, hcontact, hahead] using hgate
    rcases motionCommand_cases w.toAxis command with ⟨hrefused, heq⟩ | ⟨hstop, -⟩ |
      ⟨-, hidle, -, -, heq⟩
    · have hworld : ({ w with toAxis := (motionCommand w.toAxis command).2 } : World) = w := by
        rw [heq]
      dsimp only
      rw [hworld]
      by_cases hsafe : (reevaluate w).safety.state = .idle
      · have hsame := sameOutcome_reevaluate hsafe
        exact .keeps (by rw [hsame.motion]) hsame.tally (fun hacc => absurd hacc hrefused) hcancels
      · obtain ⟨hstate, htally⟩ := tally_reevaluate hs hsafe
        refine .latches hstate htally (fun hacc => absurd hacc hrefused) hcancels ?_
        unfold World.latchedBy
        simp only [hdeparts, Bool.true_and, Bool.or_eq_true, bne_iff_ne]
        exact Or.inr hsafe
    · rcases htype with h | h <;> exact absurd (h.symm.trans hstop) nofun
    · have hstarts : command.type.startsMotion = true := by
        rcases htype with h | h <;> rw [h] <;> rfl
      have hmoving : AppState.moving = if command.type = .home then .homing else .moving := by
        rcases htype with h | h <;> rw [h] <;> rfl
      rw [heq]
      dsimp only
      generalize hv : ({ w with
        motion := w.motion.start (motionTarget w.motion command) } : World) = v
      have hstate : v.motion.data.state = .moving := by
        rw [← hv]
        rfl
      have htally : v.tally = w.tally := by
        rw [← hv]
        rfl
      have hsettled : v.safety.Settled := by
        rw [← hv]
        exact hs
      exact starts_outcome rfl hstarts hidle (hstate.trans hmoving) htally
        (adopts_reevaluate hsettled)

/-- **What a command does to the outcomes.** -/
theorem command_outcome (hs : w.safety.Settled) (command : MotionCommand) :
    CommandOutcome w command (runtimeSafetyCommand w command) := by
  unfold runtimeSafetyCommand
  split_ifs with hestop hreset hstop hclosed hhalt hhome hseek hdepart
  · exact commandEstop_outcome hestop
  · exact commandReset_outcome hreset
  · refine commandStopHoming_outcome ?_
    unfold World.cancels
    simp [hstop.1, hstop.2.1, hstop.2.2]
  all_goals
    have hcancels : w.cancels command = false := by
      unfold World.cancels
      rw [Bool.eq_false_iff]
      intro h
      simp only [Bool.and_eq_true, beq_iff_eq] at h
      exact hstop ⟨h.1.2, h.2, h.1.1⟩
  · refine .keeps rfl rfl (fun _ => ?_) hcancels
    rw [hhalt]
    rfl
  · exact .keeps rfl rfl nofun hcancels
  · exact commandHome_outcome hs hhome
  · exact .keeps rfl rfl nofun hcancels
  · exact commandDepart_outcome hs hclosed hdepart.1 hdepart.2
  · exact motionCommand_outcome hcancels

/-! ### The control section -/

/-- An update of a running `HOME` fails, so that the attempt is counted twice. -/
def World.seekFails (w : World) : Bool :=
  w.safety.state == .idle && w.motion.data.state == .homing && !(attemptUpdate w).1

/-- The control section finds a latch, or is led to one by the departure allowance. -/
def World.latchedInUpdate (w : World) : Bool :=
  w.safety.state != .idle || (w.safety.homeContact && (reevaluate w).safety.state != .idle)

/-- What the control section of a release does to the state and to the outcomes. -/
inductive SectionOutcome (w v : World) : Prop
  /-- The motion goes on, or there is none. -/
  | keeps (state : v.motion.data.state = w.motion.data.state) (tally : v.tally = w.tally)
  /-- A latch is adopted at rest. -/
  | rests (before : w.motion.data.state.active = false) (after : v.motion.data.state.active = false)
      (tally : v.tally = w.tally)
  /-- The motion is aborted by a latch. -/
  | aborts (before : w.motion.data.state.active = true)
      (after : v.motion.data.state = .fault ∨ v.motion.data.state = .estop)
      (tally : v.tally = w.tally.abort)
      (latched : w.motion.data.state = .stopping → w.latchedInUpdate = true)
  /-- The motion is completed. -/
  | completes (before : w.motion.data.state = .moving ∨ w.motion.data.state = .homing)
      (after : v.motion.data.state = .idle)
      (tally : v.tally = w.tally.complete w.motion.data.state)
  /-- The coast after a `STOP` is over. -/
  | coasts (before : w.motion.data.state = .stopping) (after : v.motion.data.state = .idle)
      (tally : v.tally = w.tally)
  /-- A failed update of a `HOME` counts the attempt, and so does the latch that it raises. -/
  | fails (fails : w.seekFails = true) (after : v.motion.data.state.active = false)
      (tally : v.tally = w.tally.abort.abort)

/-- A latch that the control section adopts aborts an active motion. -/
lemma latched_outcome (hstate : v.motion.data.state = .fault ∨ v.motion.data.state = .estop)
    (htally : v.tally = w.tally.interrupt w.motion.data.state)
    (hlatched : w.motion.data.state = .stopping → w.latchedInUpdate = true) :
    SectionOutcome w v := by
  cases hactive : w.motion.data.state.active with
  | true =>
    exact .aborts hactive hstate (htally.trans (Tally.interrupt_of_active hactive)) hlatched
  | false =>
    exact .rests hactive (active_of_latched hstate)
      (htally.trans (Tally.interrupt_of_inactive hactive))

omit [Rounding] in
/-- The latch that an internal fault raises counts the motion that is still active. -/
lemma tally_raiseInternal (w : World) (now : UInt32) :
    ((runtimeSafetySync (raiseInternal w now)).motion.data.state = .fault ∨
      (runtimeSafetySync (raiseInternal w now)).motion.data.state = .estop) ∧
    (runtimeSafetySync (raiseInternal w now)).tally = w.tally.interrupt w.motion.data.state := by
  have hsame := sameOutcome_raiseInternal w now
  have hlatched := raiseInternal_latched w now
  have hne : (raiseInternal w now).safety.state ≠ .idle := by
    rcases hlatched with h | h <;> rw [h] <;> exact nofun
  have hsync := tally_runtimeSafetySync (Or.inr hlatched) hne
  rw [hsame.tally, hsame.motion] at hsync
  exact hsync

omit [Rounding] in
/-- A failed update counts the motion that was active before it, and the latch that it raises counts
the one that is still active. -/
lemma tally_updateFailed (v : World) (active : Bool) :
    ((updateFailed v active).motion.data.state = .fault ∨
      (updateFailed v active).motion.data.state = .estop) ∧
    (updateFailed v active).tally =
      (if active then v.tally.abort else v.tally).interrupt v.motion.data.state := by
  cases active with
  | true => exact tally_raiseInternal v.countAbort v.task.nowMs
  | false => exact tally_raiseInternal v v.task.nowMs

/-- An update with valid feedback that does not drive the motor succeeds. -/
lemma motionUpdate_rests {x : Axis} {dt : FloatValue} (hinit : x.motion.initialized = true)
    (hvalid : x.motion.data.feedbackValid = true) (hdt : badStep dt = false)
    (hne : x.motion.updated.data.state ≠ .moving) :
    motionUpdate x dt = (true, motionRest { x with motion := x.motion.updated }) := by
  unfold motionUpdate
  rw [if_neg (by simp [hinit, hvalid, hdt])]
  exact if_neg hne

/-- The section has a valid sample whenever it is not latched. -/
structure World.Updatable (w : World) : Prop where
  initialized : w.motion.initialized = true
  sampled : w.safety.state = .idle → w.task.sampled = true
  valid : w.task.sampled = true → w.motion.data.feedbackValid = true ∧ badStep w.task.dt = false

/-- The update of a controller that rests. -/
lemma motionUpdate_of_rest (hinit : v.motion.initialized = true)
    (hvalid : v.motion.data.feedbackValid = true) {dt : FloatValue} (hdt : badStep dt = false)
    (hrest : v.motion.data.state ≠ .moving ∧ v.motion.data.state ≠ .stopping) :
    (motionUpdate v.toAxis dt).1 = true ∧
      v.Adopts { v with toAxis := (motionUpdate v.toAxis dt).2 } := by
  have hstate : v.motion.updated.data.state = v.motion.data.state := by
    rcases updated_state v.motion with h | ⟨h, -⟩
    · exact h
    · exact absurd h (not_or.mpr hrest)
  have hupdate := motionUpdate_rests hinit hvalid hdt (x := v.toAxis)
    (by rw [hstate]; exact hrest.1)
  have hmoves : v.motion.updated.data.completedMoves = v.motion.data.completedMoves := by
    rw [updated_completedMoves, if_neg fun h => hrest.1 h.1]
  rw [hupdate]
  exact ⟨rfl, .keeps hstate (Tally.ext hmoves
    (congrArg HomingSnapshot.completed (updated_keeps v.motion).homing) rfl)⟩

lemma reevaluate_initialized (w : World) :
    (reevaluate w).motion.initialized = w.motion.initialized := by
  rw [reevaluate, (runtimeSafetySync_config _).2.1, runtimeSafetyEvaluate_motion]
  rfl

/-- The world that `motion_update` is given outside `HOMING`. -/
def World.shown (w : World) : World := if w.safety.homeContact then reevaluate w else w

lemma runtimeControlUpdate_of_ne {dt : FloatValue} {now : UInt32}
    (h : w.motion.data.state ≠ .homing) :
    runtimeControlUpdate w dt now = ((motionUpdate w.shown.toAxis dt).1,
      { w.shown with toAxis := (motionUpdate w.shown.toAxis dt).2 }) := if_pos h

lemma adopts_shown (hs : w.safety.Settled) : w.Adopts w.shown := by
  unfold World.shown
  split_ifs
  · exact adopts_reevaluate hs
  · exact .keeps rfl rfl

lemma shown_initialized (w : World) : w.shown.motion.initialized = w.motion.initialized := by
  unfold World.shown
  split_ifs
  · exact reevaluate_initialized w
  · rfl

lemma shown_feedbackValid (w : World) :
    w.shown.motion.data.feedbackValid = w.motion.data.feedbackValid := by
  unfold World.shown
  split_ifs
  · exact reevaluate_feedbackValid w
  · rfl

/-- The update of a latched controller succeeds, if there is one, and counts nothing. -/
lemma attemptUpdate_of_latched (hs : w.safety.Settled) (hinit : w.motion.initialized = true)
    (hvalid : w.task.sampled = true →
      w.motion.data.feedbackValid = true ∧ badStep w.task.dt = false)
    (hw : w.motion.data.state = .fault ∨ w.motion.data.state = .estop) :
    w.Adopts (attemptUpdate w).2 := by
  unfold attemptUpdate
  split_ifs with hsampled
  · have hhome : w.motion.data.state ≠ .homing := by
      rcases hw with h | h <;> rw [h] <;> exact nofun
    obtain ⟨hfeedback, hdt⟩ := hvalid hsampled
    have hshown := adopts_shown hs
    have hrest : w.shown.motion.data.state ≠ .moving ∧ w.shown.motion.data.state ≠ .stopping := by
      rcases (hshown.of_latched hw).1 with h | h <;> rw [h] <;> exact ⟨nofun, nofun⟩
    have hupdate := motionUpdate_of_rest (v := w.shown) ((shown_initialized w).trans hinit)
      ((shown_feedbackValid w).trans hfeedback) hdt hrest
    rw [runtimeControlUpdate_of_ne hhome]
    exact hshown.trans hupdate.2
  · exact .keeps rfl rfl

/-- The control section adopts a latch that it finds. -/
lemma section_latched (hs : w.safety.Settled) (hne : w.safety.state ≠ .idle)
    (hw : w.Updatable) : SectionOutcome w (controlSection w).2 := by
  obtain ⟨hstate, htally⟩ := tally_runtimeSafetySync hs hne
  have hsettled : (runtimeSafetySync w).safety.Settled := by
    simpa [SafetyManager.Settled] using hs
  have hinit : (runtimeSafetySync w).motion.initialized = true :=
    (runtimeSafetySync_config w).2.1.trans hw.initialized
  have hvalid : (runtimeSafetySync w).task.sampled = true →
      (runtimeSafetySync w).motion.data.feedbackValid = true ∧
        badStep (runtimeSafetySync w).task.dt = false := by
    rw [runtimeSafetySync_task, (runtimeSafetySync_sampling w).1]
    exact hw.valid
  have hlatched : w.latchedInUpdate = true := by
    unfold World.latchedInUpdate
    simp only [Bool.or_eq_true, bne_iff_ne]
    exact Or.inl hne
  have hattempt := attemptUpdate_of_latched hsettled hinit hvalid hstate
  obtain ⟨hstate', htally'⟩ := hattempt.of_latched hstate
  rw [htally] at htally'
  by_cases hok : (controlSection w).1 = true
  · have hsection : (controlSection w).2 = (attemptUpdate (runtimeSafetySync w)).2 := by
      rw [controlSection_result] at hok
      unfold controlSection
      exact congrArg Prod.snd (if_pos hok)
    rw [hsection]
    exact latched_outcome hstate' htally' fun _ => hlatched
  · rw [controlSection_of_false (by simpa using hok)]
    obtain ⟨hfinal, hcount⟩ := tally_updateFailed (attemptUpdate (runtimeSafetySync w)).2
      (runtimeSafetySync w).motion.data.state.active
    rw [active_of_latched hstate] at hfinal hcount ⊢
    rw [Tally.interrupt_of_inactive (active_of_latched hstate'), if_neg (by decide),
      htally'] at hcount
    exact latched_outcome hfinal hcount fun _ => hlatched

/-- The timeout of a `HOME` that is still in progress latches, and counts it. -/
lemma finishHoming_timeout (now : UInt32) (hhome : w.motion.data.state = .homing)
    (htimeout : w.motion.data.homing.result = .timeout) :
    ((finishHoming w now).motion.data.state = .fault ∨
        (finishHoming w now).motion.data.state = .estop) ∧
      (finishHoming w now).tally = w.tally.abort := by
  have hfinish : finishHoming w now = runtimeSafetySync (raiseTimeout w now) := if_pos htimeout
  have hsame := sameOutcome_raiseTimeout w now
  have hlatched := raiseTimeout_latched w now
  have hne : (raiseTimeout w now).safety.state ≠ .idle := by
    rcases hlatched with h | h <;> rw [h] <;> decide
  obtain ⟨hstate, htally⟩ := tally_runtimeSafetySync (Or.inr hlatched) hne
  rw [hsame.tally, hsame.motion, hhome] at htally
  rw [hfinish]
  exact ⟨hstate, htally⟩

/-- What the update of a running `HOME` does: it goes on, it is aborted by its deadline, it
completes, or it fails with the controller still in `HOMING`. -/
lemma seekUpdate_outcome (inputs : GpioInputs) (now : UInt32)
    (hhome : w.motion.data.state = .homing)
    (hrun : w.motion.data.homing.result ≠ .timeout ∧ w.motion.data.homing.result ≠ .complete) :
    ((seekUpdate w inputs now).2.motion.data.state = .homing ∧
      (seekUpdate w inputs now).2.tally = w.tally) ∨
    (seekUpdate w inputs now).1 = true ∧
      (((seekUpdate w inputs now).2.motion.data.state = .fault ∨
          (seekUpdate w inputs now).2.motion.data.state = .estop) ∧
        (seekUpdate w inputs now).2.tally = w.tally.abort ∨
      (seekUpdate w inputs now).2.motion.data.state = .idle ∧
        (seekUpdate w inputs now).2.tally = w.tally.complete w.motion.data.state) := by
  rcases homingUpdate_cases w.toAxis inputs now with ⟨heq, -⟩ | ⟨io, -, heq, -⟩ | hsame
  · have hupdate : seekUpdate w inputs now = (true, finishHoming { w with
        toAxis := homingAbort { w.toAxis with
          motion := w.motion.withElapsed now } .timeout } now) := by
      simp only [seekUpdate, heq]
      rfl
    have hattempt := sameAttempt_abort w.motion now .timeout
    rw [hupdate]
    generalize hu : ({ w with
      toAxis := homingAbort { w.toAxis with motion := w.motion.withElapsed now } .timeout } :
        World) = u
    have hstate : u.motion.data.state = .homing := by
      rw [← hu]
      exact hhome
    have htally : u.tally = w.tally := by
      rw [← hu]
      exact Tally.ext rfl hattempt.completed rfl
    rw [← htally]
    by_cases htimeout : u.motion.data.homing.result = .timeout
    · exact Or.inr ⟨rfl, Or.inl (finishHoming_timeout now hstate htimeout)⟩
    · have hcomplete : u.motion.data.homing.result ≠ .complete := by
        rw [← hu]
        exact HomingSnapshot.abort_ne (by decide) hrun.2
      dsimp only
      rw [finishHoming_of_ne ⟨htimeout, hcomplete⟩]
      exact Or.inl ⟨hstate, rfl⟩
  · have hupdate : seekUpdate w inputs now = (true, runtimeSafetyEvaluate
        (completeHoming w now io)) := by
      simp only [seekUpdate, heq, finishHoming]
      rfl
    have hsame := sameOutcome_evaluate (completeHoming w now io)
    have htally : (completeHoming w now io).tally = w.tally.complete w.motion.data.state := by
      rw [hhome]
      rfl
    rw [hupdate]
    refine Or.inr ⟨rfl, Or.inr ⟨?_, hsame.tally.trans htally⟩⟩
    dsimp only
    rw [hsame.motion]
    rfl
  · rw [seekUpdate_of_continues hrun hsame]
    refine Or.inl ⟨hsame.state.trans hhome, ?_⟩
    unfold World.tally
    rw [hsame.completedMoves, hsame.completed]

/-- Motion's own reading keeps the outcomes unless it leads to a latch. -/
lemma sameOutcome_afterHazardRead (h : (afterHazardRead w).safety.state = .idle) :
    w.SameOutcome (afterHazardRead w) := by
  have hread : World.SameOutcome w { w with io := w.io.afterGpio } := ⟨rfl, rfl⟩
  unfold afterHazardRead at h ⊢
  dsimp only at h ⊢
  split_ifs at h ⊢
  · exact hread.trans (sameOutcome_reevaluate h)
  · exact hread

/-- The control section of a running `HOME`. -/
lemma section_seek (hreg : w.Regular) (hidle : w.safety.state = .idle)
    (hhome : w.motion.data.state = .homing) (hw : w.Updatable) :
    SectionOutcome w (controlSection w).2 := by
  have hsync := runtimeSafetySync_of_idle hidle
  have hactive : w.motion.data.state.active = true := by
    rw [hhome]
    rfl
  have hne : w.motion.data.state ≠ .stopping := by
    rw [hhome]
    exact nofun
  have hattempt : attemptUpdate w = homingControl w w.task.nowMs := by
    unfold attemptUpdate runtimeControlUpdate
    rw [if_pos (hw.sampled hidle), if_neg (not_not.mpr hhome)]
  have hok : (attemptUpdate w).1 = true → (controlSection w).2 = (attemptUpdate w).2 := by
    intro hok
    unfold controlSection
    dsimp only
    rw [hsync]
    exact congrArg Prod.snd (if_pos hok)
  rw [homingControl_eq] at hattempt
  by_cases hstop : hazardRead w.io.gpioReadInputs ∧ (afterHazardRead w).safety.state ≠ .idle
  · rw [if_pos hstop] at hattempt
    have hafter : afterHazardRead w = reevaluate { w with io := w.io.afterGpio } := if_pos hstop.1
    have hlatch := hstop.2
    rw [hafter] at hlatch
    obtain ⟨hstate, htally⟩ := tally_reevaluate (w := { w with io := w.io.afterGpio }) hreg.settled
      hlatch
    rw [hok (by rw [hattempt]), hattempt, hafter]
    exact latched_outcome hstate htally fun h => absurd h hne
  · rw [if_neg hstop] at hattempt
    have hafter := afterHazardRead_idle hidle hstop
    have hsame := sameOutcome_afterHazardRead hafter
    have hrun := hreg.homing hhome
    rw [← hsame.motion] at hhome hrun
    have hseek := seekUpdate_outcome (w.io.gpioReadInputs.getD {}) w.task.nowMs hhome hrun
    rw [← hattempt, hsame.tally] at hseek
    rcases hseek with ⟨hstate, htally⟩ | ⟨htrue, ⟨hstate, htally⟩ | ⟨hstate, htally⟩⟩
    · by_cases htrue : (attemptUpdate w).1 = true
      · rw [hok htrue]
        exact .keeps (hstate.trans (hhome.symm.trans (by rw [hsame.motion]))) htally
      · have hfalse : (controlSection w).1 = false := by
          rw [controlSection_result, hsync]
          simpa using htrue
        obtain ⟨hfinal, hcount⟩ := tally_updateFailed (attemptUpdate w).2 true
        rw [controlSection_of_false hfalse, hsync, hactive]
        refine .fails ?_ (active_of_latched hfinal) ?_
        · unfold World.seekFails
          rw [hsame.motion] at hhome
          simp [hidle, hhome, htrue]
        · rw [hcount, htally, hstate]
          rfl
    · rw [hok htrue]
      exact latched_outcome hstate (htally.trans (Tally.interrupt_of_active hactive).symm)
        fun h => absurd h hne
    · rw [hok htrue]
      rw [hsame.motion] at hhome htally
      exact .completes (Or.inr hhome) hstate htally

/-- The update outside `HOMING` of a controller whose state has led to no latch. -/
lemma motionUpdate_outcome {dt : FloatValue} (hsame : w.SameOutcome v)
    (hinit : v.motion.initialized = true) (hvalid : v.motion.data.feedbackValid = true)
    (hdt : badStep dt = false) :
    ((motionUpdate v.toAxis dt).1 = true ∧
      SectionOutcome w { v with toAxis := (motionUpdate v.toAxis dt).2 }) ∨
    ((motionUpdate v.toAxis dt).1 = false ∧ w.motion.data.state = .moving ∧
      (motionUpdate v.toAxis dt).2.motion.data.state = .idle ∧
      World.tally { v with toAxis := (motionUpdate v.toAxis dt).2 } = w.tally) := by
  have hhoming := (updated_keeps v.motion).homing
  rw [← hsame.tally]
  by_cases hmoving : v.motion.updated.data.state = .moving
  · have hstate : v.motion.data.state = .moving := by
      rcases updated_state v.motion with h | ⟨-, h⟩
      · exact h.symm.trans hmoving
      · exact absurd (h.symm.trans hmoving) nofun
    have hmoves : v.motion.updated.data.completedMoves = v.motion.data.completedMoves := by
      rw [updated_completedMoves, if_neg fun h => h.2 hmoving]
    rcases motionUpdate_cases v.toAxis dt with ⟨y, hframe, -, heq⟩ | ⟨hne, -⟩ |
      ⟨out, pid, -, -, heq⟩
    · rw [heq]
      refine Or.inr ⟨rfl, hsame.motion ▸ hstate, ?_, ?_⟩
      · rw [fail_state, hframe.initialized, if_pos hinit]
      · exact Tally.ext hframe.fail.completedMoves
          (congrArg HomingSnapshot.completed hframe.fail.homing) rfl
    · exact absurd hmoving hne
    · rw [heq]
      refine Or.inl ⟨rfl, .keeps (hmoving.trans (hsame.motion ▸ hstate).symm) ?_⟩
      rw [← hsame.tally]
      exact Tally.ext hmoves (congrArg HomingSnapshot.completed hhoming) rfl
  · rw [motionUpdate_rests hinit hvalid hdt hmoving]
    refine Or.inl ⟨rfl, ?_⟩
    have hstate : (motionRest { v.toAxis with motion := v.motion.updated }).motion.data.state =
        v.motion.updated.data.state := rfl
    have htally : World.tally { v with
        toAxis := motionRest { v.toAxis with motion := v.motion.updated } } =
        ⟨v.motion.updated.data.completedMoves, v.motion.data.homing.completed,
          v.safety.abortedMoves⟩ := by
      rw [← hhoming]
      rfl
    rw [updated_completedMoves] at htally
    rcases updated_state v.motion with hkeeps | ⟨hbefore, hidle⟩
    · rw [if_neg fun h => hmoving (hkeeps.trans h.1)] at htally
      exact .keeps (hstate.trans (hkeeps.trans (by rw [hsame.motion]))) (htally.trans hsame.tally)
    · rcases hbefore with hbefore | hbefore
      · rw [if_pos ⟨hbefore, hmoving⟩] at htally
        refine .completes (Or.inl (hsame.motion ▸ hbefore)) (hstate.trans hidle) (htally.trans ?_)
        rw [← hsame.tally, ← hsame.motion, hbefore]
        rfl
      · have hne : v.motion.data.state ≠ .moving := by
          rw [hbefore]
          exact nofun
        rw [if_neg fun h => hne h.1] at htally
        exact .coasts (hsame.motion ▸ hbefore) (hstate.trans hidle) (htally.trans hsame.tally)

/-- The control section outside `HOMING`. -/
lemma section_drive (hs : w.safety.Settled) (hidle : w.safety.state = .idle)
    (hhome : w.motion.data.state ≠ .homing) (hw : w.Updatable) :
    SectionOutcome w (controlSection w).2 := by
  have hsync := runtimeSafetySync_of_idle hidle
  have hsampled := hw.sampled hidle
  obtain ⟨hvalid, hdt⟩ := hw.valid hsampled
  have hinit' := (shown_initialized w).trans hw.initialized
  have hvalid' := (shown_feedbackValid w).trans hvalid
  have hattempt : attemptUpdate w = ((motionUpdate w.shown.toAxis w.task.dt).1,
      { w.shown with toAxis := (motionUpdate w.shown.toAxis w.task.dt).2 }) := by
    unfold attemptUpdate
    rw [if_pos hsampled, runtimeControlUpdate_of_ne hhome]
  have hok : (attemptUpdate w).1 = true → (controlSection w).2 = (attemptUpdate w).2 := by
    intro hok
    unfold controlSection
    dsimp only
    rw [hsync]
    exact congrArg Prod.snd (if_pos hok)
  by_cases hlatch : w.safety.homeContact = true ∧ (reevaluate w).safety.state ≠ .idle
  · have hshown : w.shown = reevaluate w := if_pos hlatch.1
    have hlatched : w.latchedInUpdate = true := by
      unfold World.latchedInUpdate
      simp only [Bool.or_eq_true, Bool.and_eq_true, bne_iff_ne]
      exact Or.inr hlatch
    obtain ⟨hstate, htally⟩ := tally_reevaluate hs hlatch.2
    rw [← hshown] at hstate htally
    have hrest : w.shown.motion.data.state ≠ .moving ∧ w.shown.motion.data.state ≠ .stopping := by
      rcases hstate with h | h <;> rw [h] <;> exact ⟨nofun, nofun⟩
    obtain ⟨htrue, hadopts⟩ := motionUpdate_of_rest hinit' hvalid' hdt hrest
    obtain ⟨hstate', htally'⟩ := hadopts.of_latched hstate
    rw [hok (by rw [hattempt]; exact htrue), hattempt]
    exact latched_outcome hstate' (htally'.trans htally) fun _ => hlatched
  · have hsame : w.SameOutcome w.shown := by
      unfold World.shown
      split_ifs with hcontact
      · exact sameOutcome_reevaluate (by simpa [hcontact] using hlatch)
      · exact ⟨rfl, rfl⟩
    rcases motionUpdate_outcome hsame hinit' hvalid' hdt with ⟨htrue, houtcome⟩ |
      ⟨hfalse, hmoving, hstate, htally⟩
    · rw [hok (by rw [hattempt]; exact htrue), hattempt]
      exact houtcome
    · have hfailed : (controlSection w).1 = false := by
        rw [controlSection_result, hsync, hattempt]
        exact hfalse
      have hactive : w.motion.data.state.active = true := by
        rw [hmoving]
        rfl
      obtain ⟨hfinal, hcount⟩ := tally_updateFailed (attemptUpdate w).2 true
      rw [controlSection_of_false hfailed, hsync, hactive]
      refine latched_outcome hfinal ?_ fun h => absurd (hmoving.symm.trans h) nofun
      rw [hcount, hattempt]
      dsimp only
      rw [htally, hstate, Tally.interrupt_of_active hactive]
      rfl

/-- **What the control section does to the outcomes.** -/
theorem section_outcome (hreg : w.Regular) (hw : w.Updatable) :
    SectionOutcome w (controlSection w).2 := by
  by_cases hidle : w.safety.state = .idle
  · by_cases hhome : w.motion.data.state = .homing
    · exact section_seek hreg hidle hhome hw
    · exact section_drive hreg.settled hidle hhome hw
  · exact section_latched hreg.settled hidle hw

end MotionFirmware
