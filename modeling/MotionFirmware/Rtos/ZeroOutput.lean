import MotionFirmware.Rtos.Regular

/-!
# The evidence of zero output

`runtime_safety_enforce` writes `zero_ms` while it differs from `detection_ms`.  The comparison
stands for "not written since the latch": it does so only if the enforcement that follows the latch
reads the same time as the detection, and then no later enforcement writes again.  The clock may
tick between the two readings, and a failed sample, a failed update and the homing deadline pass a
time that was read earlier in the release; then every further enforcement moves the evidence.

`enforcements` lists the calls of `runtime_safety_enforce` that an action makes, and `Follows` is
the intended rule: a latch sets the evidence to the time of its enforcement, and nothing else does.
-/

namespace MotionFirmware

/-- One call of `runtime_safety_enforce`: the world in which the safety manager is called, and the
world that this call leaves to the enforcement. -/
structure Enforcement where
  before : World
  world : World

namespace Enforcement

variable (e : Enforcement)

/-- The time at which the enforcement runs. -/
def time : UInt32 := e.world.io.platformTimeMs

/-- The world after the enforcement. -/
def after : World := runtimeSafetyEnforce e.world

/-- The call of the manager trips it, or is its E-stop: the state leaves `IDLE`. -/
def Trips : Prop := e.before.safety.state = .idle ∧ e.world.safety.state ≠ .idle

/-- The call of the manager turns a `FAULT` into an `ESTOP`. -/
def Escalates : Prop := e.before.safety.state = .fault ∧ e.world.safety.state = .estop

/-- The enforcement is the first one after a trip or an E-stop. -/
def Latches : Prop := e.Trips ∨ e.Escalates

instance : Decidable e.Latches :=
  inferInstanceAs (Decidable (_ ∧ _ ∨ _ ∧ _))

/-- After a latch the enforcement still reads the time of its detection. -/
def Prompt : Prop := e.Latches → e.time = e.world.safety.detectionMs

instance : Decidable e.Prompt := inferInstanceAs (Decidable (_ → _))

end Enforcement

/-! ### The enforcements of an action -/

section Enforcements

variable [Rounding]

/-- The enforcement of `runtime_safety_evaluate`. -/
def Enforcement.ofEvaluate (w : World) : Enforcement := ⟨w, applyEvaluation w⟩

/-- The enforcement after `safety_estop`. -/
def Enforcement.ofEstop (w : World) : Enforcement :=
  let now := w.io.platformTimeMs
  ⟨w, w.afterTime.callSafety (.estop now) (safetyEstop w.safety now)⟩

/-- The enforcement after `safety_homing_timeout`. -/
def Enforcement.ofTimeout (w : World) (now : UInt32) : Enforcement :=
  ⟨w, w.callSafety (.homingTimeout now) (safetyHomingTimeout w.safety now)⟩

/-- The enforcement after `safety_internal_fault`. -/
def Enforcement.ofInternal (w : World) (now : UInt32) : Enforcement :=
  ⟨w, w.callSafety (.internalFault now) (safetyInternalFault w.safety now)⟩

/-- The enforcements of `runtime_safety_command`. -/
def commandEnforcements (w : World) (command : MotionCommand) : List Enforcement :=
  if command.type = .estop then [.ofEstop w]
  else if command.type = .reset then
    if w.safety.state = .idle ∧ w.motion.data.state ≠ .idle then [] else [.ofEvaluate w]
  else if w.safety.state = .idle ∧ w.motion.data.state = .homing ∧ command.type = .stop then []
  else if (w.safety.state ≠ .idle ∨ w.io.motor.inhibited) ∧ !w.parkedHome then []
  else if command.type = .home then
    let begun := homingBegin w.afterTime.toAxis w.io.platformTimeMs
    if begun.1 = .accepted then [.ofEvaluate { w.afterTime with toAxis := begun.2 }.publish] else []
  else if w.motion.data.state = .homing then []
  else if w.safety.homeContact ∧ (command.type = .moveAbs ∨ command.type = .moveRel) then
    if motionTarget w.motion command ≤ w.motion.data.position.toInt then []
    else [.ofEvaluate { w with toAxis := (motionCommand w.toAxis command).2 }.publish]
  else []

/-- The enforcements of `finishHoming`. -/
def finishEnforcements (w : World) (now : UInt32) : List Enforcement :=
  if w.motion.data.homing.result = .timeout then [.ofTimeout w now]
  else if w.motion.data.homing.result = .complete then [.ofEvaluate (grantContact w)]
  else []

/-- The enforcements of `seekUpdate`. -/
def seekEnforcements (w : World) (inputs : GpioInputs) (now : UInt32) : List Enforcement :=
  let updated := homingUpdate w.toAxis inputs now
  if !updated.1 then [] else finishEnforcements { w with toAxis := updated.2 } now

/-- The enforcements of `homingControl`. -/
def homingEnforcements (w : World) (now : UInt32) : List Enforcement :=
  let gpio := w.io.gpioReadInputs
  let w := { w with io := w.io.afterGpio }
  if hazardRead gpio then
    let v := reevaluate w
    .ofEvaluate w.publish ::
      if v.safety.state ≠ .idle then [] else seekEnforcements v (gpio.getD {}) now
  else seekEnforcements w (gpio.getD {}) now

/-- The enforcements of `runtime_control_update`. -/
def updateEnforcements (w : World) (now : UInt32) : List Enforcement :=
  if w.motion.data.state ≠ .homing then
    if w.safety.homeContact then [.ofEvaluate w.publish] else []
  else homingEnforcements w now

/-- The enforcements of the control section of a release. -/
def controlEnforcements (w : World) : List Enforcement :=
  let w := runtimeSafetySync w
  let updated := attemptUpdate w
  (if w.task.sampled then updateEnforcements w w.task.nowMs else []) ++
    if updated.1 then []
    else
      let v := updated.2
      [.ofInternal (if w.motion.data.state.active then v.countAbort else v) v.task.nowMs]

/-- The enforcement after a failed sample. -/
def sampleEnforcement (w : World) : Enforcement :=
  let v := if w.task.beforeSafety.active then w.countAbort else w
  let v := if v.task.beforeSafety = .homing then v.onAxis fun x => homingAbort x .faulted else v
  .ofInternal v v.task.nowMs

/-- The calls of `runtime_safety_enforce` that an action makes, in order. -/
def enforcements (a : Action) (w : World) : List Enforcement :=
  match a with
  | .motion _ =>
    match w.task.phase with
    | .reconcile => if w.task.sampled then [] else [sampleEnforcement w]
    | .execute _ command => if w.task.app = .idle then commandEnforcements w command else []
    | .update => controlEnforcements w
    | _ => []
  | .safety => [.ofEvaluate w]
  | .heartbeat _ => []
  | .request _ => []

/-- The calls of `runtime_safety_enforce` along a run from the given world. -/
def enforcementsFrom (w : World) : List Action → List Enforcement
  | [] => []
  | a :: as => enforcements a w ++ enforcementsFrom (step a w) as

/-- The calls of `runtime_safety_enforce` in a run from `runtime_init`. -/
def enforcementHistory (env : Environment) (as : List Action) : List Enforcement :=
  enforcementsFrom (runtimeInit env) as

end Enforcements

/-! ### The rule for the evidence -/

/-- The evidence follows the rule, from the value `z` to the last one: a latch sets it to the time
of its enforcement, and no other enforcement changes it. -/
def Follows (z : UInt32) : List Enforcement → UInt32 → Prop
  | [], z' => z' = z
  | e :: es, z' =>
    e.after.safety.zeroMs = (if e.Latches then e.time else z) ∧
      Follows e.after.safety.zeroMs es z'

variable {z z' y : UInt32} {e : Enforcement} {es fs : List Enforcement}

/-- The rule is followed by a concatenation when it is followed by both parts. -/
lemma follows_append : Follows z (es ++ fs) z' ↔ ∃ y, Follows z es y ∧ Follows y fs z' := by
  induction es generalizing z with
  | nil => simp [Follows]
  | cons e es ih =>
    rw [List.cons_append, Follows, ih]
    constructor
    · rintro ⟨h, y, hy, hy'⟩
      exact ⟨y, ⟨h, hy⟩, hy'⟩
    · rintro ⟨y, ⟨h, hy⟩, hy'⟩
      exact ⟨h, y, hy, hy'⟩

/-- Without a latch the evidence stays, at every enforcement and at the end. -/
lemma Follows.stable (h : Follows z es z') (hquiet : ∀ e ∈ es, ¬ e.Latches) :
    (∀ e ∈ es, e.after.safety.zeroMs = z) ∧ z' = z := by
  induction es generalizing z with
  | nil => exact ⟨by simp, h⟩
  | cons e es ih =>
    obtain ⟨hzero, hrest⟩ := h
    rw [if_neg (hquiet e (by simp))] at hzero
    rw [hzero] at hrest
    obtain ⟨hall, hlast⟩ := ih hrest fun e' he' => hquiet e' (by simp [he'])
    refine ⟨fun e' he' => ?_, hlast⟩
    rcases List.mem_cons.mp he' with rfl | hmem
    · exact hzero
    · exact hall e' hmem

/-- After a latch the evidence is the time of its enforcement until the next latch. -/
lemma Follows.after_latch (h : Follows z (e :: es) z') (hlatch : e.Latches) :
    e.after.safety.zeroMs = e.time ∧ Follows e.time es z' := by
  obtain ⟨hzero, hrest⟩ := h
  rw [if_pos hlatch] at hzero
  rw [hzero] at hrest
  exact ⟨hzero, hrest⟩

/-! ### One enforcement -/

/-- What a call of the safety manager that an enforcement follows can do: it latches, or it leaves
the state and the time of detection alone; it never writes the evidence. -/
structure SafetyManager.Raises (s s' : SafetyManager) : Prop where
  settled : s'.Settled
  zeroMs : s'.zeroMs = s.zeroMs
  latch : (s.state = .idle ∧ s'.state ≠ .idle) ∨ (s.state = .fault ∧ s'.state = .estop) ∨
    (s'.state = s.state ∧ s'.detectionMs = s.detectionMs)

variable {s t : SafetyManager} {now source : UInt32} {code : FaultCode}

lemma SafetyManager.Raises.trip (h : s.Raises t) : s.Raises (trip t code now source) := by
  have hzero : (MotionFirmware.trip t code now source).zeroMs = t.zeroMs := by
    unfold MotionFirmware.trip
    dsimp only
    split_ifs <;> rfl
  refine ⟨settled_trip, hzero.trans h.zeroMs, ?_⟩
  by_cases hidle : t.state = .idle
  · -- the manager was in `IDLE` before the call as well, so this is the latch
    have hstart : s.state = .idle := by
      rcases h.latch with ⟨hs, -⟩ | ⟨-, ht⟩ | ⟨hsame, -⟩
      · exact hs
      · exact absurd (hidle.symm.trans ht) nofun
      · exact hsame ▸ hidle
    exact Or.inl ⟨hstart, trip_state_ne_idle⟩
  · have hlatched : ¬ (t.state ≠ .estop ∧ t.state ≠ .fault) := by
      rcases h.settled with ht | ht | ht <;> simp_all
    have hstate : (MotionFirmware.trip t code now source).state = t.state := by
      unfold MotionFirmware.trip
      dsimp only
      rw [if_neg hlatched]
    have hdetect : (MotionFirmware.trip t code now source).detectionMs = t.detectionMs := by
      unfold MotionFirmware.trip
      dsimp only
      rw [if_neg hlatched]
    rw [hstate, hdetect]
    exact h.latch

lemma SafetyManager.Raises.estop (h : s.Raises t) : s.Raises (safetyEstop t now) := by
  refine ⟨Or.inr (Or.inr rfl), h.zeroMs, ?_⟩
  by_cases hestop : t.state = .estop
  · rcases h.latch with ⟨hs, -⟩ | ⟨hs, -⟩ | ⟨hsame, hdetect⟩
    · exact Or.inl ⟨hs, nofun⟩
    · exact Or.inr (Or.inl ⟨hs, rfl⟩)
    · refine Or.inr (Or.inr ⟨hestop.symm.trans hsame, ?_⟩)
      simpa [safetyEstop, hestop] using hdetect
  · -- an E-stop from `IDLE` or from `FAULT`
    rcases h.latch with ⟨hs, -⟩ | ⟨-, ht⟩ | ⟨hsame, -⟩
    · exact Or.inl ⟨hs, nofun⟩
    · exact absurd ht hestop
    · rcases h.settled with ht | ht | ht
      · exact Or.inl ⟨hsame ▸ ht, nofun⟩
      · exact Or.inr (Or.inl ⟨hsame ▸ ht, rfl⟩)
      · exact absurd ht hestop

lemma SafetyManager.Settled.raises (h : s.Settled) : s.Raises s :=
  ⟨h, rfl, Or.inr (Or.inr ⟨rfl, rfl⟩)⟩

/-- Every primitive operation of an evaluation keeps to what such a call can do. -/
lemma kept_raises {c : Evaluation} : Kept c s.Raises where
  trip _ _ _ h _ := h.trip
  estop _ h := h.estop
  internal _ _ h := ⟨h.settled, h.zeroMs, h.latch⟩
  release _ h := ⟨h.settled, h.zeroMs, h.latch⟩
  recovery _ h _ := ⟨h.settled, h.zeroMs, h.latch⟩
  candidate _ _ _ _ h := ⟨h.settled, h.zeroMs, h.latch⟩
  stall _ h _ := SafetyManager.Raises.trip ⟨h.settled, h.zeroMs, h.latch⟩
  condition _ h := ⟨h.settled, h.zeroMs, h.latch⟩

namespace Enforcement

/-- The call of the manager before the enforcement is one that latches or leaves the latch alone. -/
def Sound (e : Enforcement) : Prop :=
  e.before.safety.Settled → e.before.safety.Raises e.world.safety

variable [Rounding] (w : World) (now : UInt32)

lemma sound_ofEvaluate : (ofEvaluate w).Sound := fun h =>
  kept_raises.safetyEvaluate ⟨h, rfl, Or.inr (Or.inr ⟨rfl, rfl⟩)⟩

omit [Rounding] in
lemma sound_ofEstop : (ofEstop w).Sound := fun h => h.raises.estop

omit [Rounding] in
lemma sound_ofTimeout : (ofTimeout w now).Sound := fun h => h.raises.trip

omit [Rounding] in
lemma sound_ofInternal : (ofInternal w now).Sound := fun h =>
  SafetyManager.Raises.trip ⟨h, rfl, Or.inr (Or.inr ⟨rfl, rfl⟩)⟩

end Enforcement

/-- While a latch is held the evidence is the time of its detection. -/
structure World.Evidenced (w : World) : Prop where
  settled : w.safety.Settled
  zero : w.safety.state ≠ .idle → w.safety.zeroMs = w.safety.detectionMs

/-- The enforcements lead from `w` to `w'`: if they are prompt, the evidence follows the rule. -/
def Leads (w : World) (es : List Enforcement) (w' : World) : Prop :=
  (∀ e ∈ es, e.Prompt) → w.Evidenced →
    w'.Evidenced ∧ Follows w.safety.zeroMs es w'.safety.zeroMs

/-- **One enforcement.**  A prompt enforcement writes the evidence after a latch, and only then. -/
theorem Enforcement.Sound.leads (hsound : e.Sound) : Leads e.before [e] e.after := by
  intro hprompt hw
  have hraises := hsound hw.settled
  have hsafety : e.after.safety.state = e.world.safety.state ∧
      e.after.safety.detectionMs = e.world.safety.detectionMs ∧
      e.after.safety.zeroMs = latchedZeroMs e.world := by
    simp [Enforcement.after]
  obtain ⟨hstate, hdetect, hzero⟩ := hsafety
  have hsettled : e.after.safety.Settled := by
    unfold SafetyManager.Settled
    rw [hstate]
    exact hraises.settled
  by_cases hlatch : e.Latches
  · have htime : e.time = e.world.safety.detectionMs := hprompt e (by simp) hlatch
    have hlatched : e.world.safety.state ≠ .idle := by
      rcases hlatch with ⟨-, h⟩ | ⟨-, h⟩
      · exact h
      · rw [h]
        exact nofun
    have hwritten : e.after.safety.zeroMs = e.time := by
      rw [hzero, latchedZeroMs]
      split_ifs with h
      · rfl
      · rw [htime]
        by_contra hne
        exact h ⟨hlatched, hne⟩
    refine ⟨⟨hsettled, fun _ => ?_⟩, ?_, rfl⟩
    · rw [hwritten, hdetect, htime]
    · rw [hwritten, if_pos hlatch]
  · obtain ⟨hsame, hsame'⟩ : e.world.safety.state = e.before.safety.state ∧
        e.world.safety.detectionMs = e.before.safety.detectionMs := by
      rcases hraises.latch with h | h | h
      · exact absurd (Or.inl h) hlatch
      · exact absurd (Or.inr h) hlatch
      · exact h
    have hkept : e.after.safety.zeroMs = e.before.safety.zeroMs := by
      rw [hzero, latchedZeroMs]
      split_ifs with h
      · -- a latch that is held has its evidence already
        refine absurd ?_ h.2
        rw [hraises.zeroMs, hsame']
        exact hw.zero (hsame ▸ h.1)
      · exact hraises.zeroMs
    refine ⟨⟨hsettled, fun h => ?_⟩, ?_, rfl⟩
    · rw [hkept, hdetect, hsame']
      exact hw.zero (by rwa [← hsame, ← hstate])
    · rw [hkept, if_neg hlatch]

/-! ### One action -/

variable {w w' v : World}

lemma Leads.trans (h : Leads w es v) (h' : Leads v fs w') : Leads w (es ++ fs) w' := by
  intro hprompt hw
  obtain ⟨hv, hes⟩ := h (fun e he => hprompt e (by simp [he])) hw
  obtain ⟨hw', hfs⟩ := h' (fun e he => hprompt e (by simp [he])) hv
  exact ⟨hw', follows_append.mpr ⟨_, hes, hfs⟩⟩

/-- What happens between two enforcements: the evidence stays, and the latch with its time of
detection stays or is reset. -/
structure SameEvidence (w w' : World) : Prop where
  zeroMs : w'.safety.zeroMs = w.safety.zeroMs
  latch : w'.safety.state = .idle ∨
    (w'.safety.state = w.safety.state ∧ w'.safety.detectionMs = w.safety.detectionMs)

lemma SameEvidence.leads (h : SameEvidence w w') : Leads w [] w' := by
  refine fun _ hw => ⟨?_, h.zeroMs⟩
  rcases h.latch with hidle | ⟨hstate, hdetect⟩
  · exact ⟨Or.inl hidle, fun hne => absurd hidle hne⟩
  · refine ⟨?_, fun hne => ?_⟩
    · unfold SafetyManager.Settled
      rw [hstate]
      exact hw.settled
    · rw [h.zeroMs, hdetect]
      exact hw.zero (hstate ▸ hne)

lemma SameEvidence.of_eq (h : w'.safety = w.safety) : SameEvidence w w' :=
  ⟨by rw [h], Or.inr ⟨by rw [h], by rw [h]⟩⟩

lemma leads_of_eq (h : w'.safety = w.safety) : Leads w [] w' := (SameEvidence.of_eq h).leads

lemma Leads.after_same (h : Leads v es w') (hsame : SameEvidence w v) : Leads w es w' :=
  hsame.leads.trans h

lemma Leads.before_same (h : Leads w es v) (hsame : SameEvidence v w') : Leads w es w' := by
  simpa using h.trans hsame.leads

lemma sameEvidence_runtimeSafetySync (w : World) : SameEvidence w (runtimeSafetySync w) := by
  constructor
  · simp
  · right
    simp

section Actions

variable [Rounding] {a : Action}

lemma leads_evaluate (w : World) : Leads w [.ofEvaluate w] (runtimeSafetyEvaluate w) :=
  (Enforcement.sound_ofEvaluate w).leads

/-- Publication, evaluation and adoption make the enforcement of the evaluation. -/
lemma leads_reevaluate (w : World) : Leads w [.ofEvaluate w.publish] (reevaluate w) := by
  have hpublish : SameEvidence w w.publish := .of_eq rfl
  exact ((leads_evaluate w.publish).after_same hpublish).before_same
    (sameEvidence_runtimeSafetySync _)

omit [Rounding] in
lemma leads_raiseInternal (w : World) (now : UInt32) :
    Leads w [.ofInternal w now] (raiseInternal w now) :=
  (Enforcement.sound_ofInternal w now).leads

/-- The enforcement of a `RESET`, whether it is accepted or not. -/
lemma leads_commandReset (w : World)
    (hbusy : ¬ (w.safety.state = .idle ∧ w.motion.data.state ≠ .idle)) :
    Leads w [.ofEvaluate w] (commandReset w).2 := by
  unfold commandReset
  rw [if_neg hbusy]
  refine (leads_evaluate w).before_same ?_
  generalize runtimeSafetyEvaluate w = v
  dsimp only
  split
  next => exact .of_eq rfl
  next s hs =>
    obtain ⟨-, rfl⟩ := safetyReset_eq_some.mp hs
    exact ⟨rfl, Or.inl rfl⟩

/-- The enforcement of an accepted `HOME`. -/
lemma leads_commandHome (w : World) :
    Leads w (if (homingBegin w.afterTime.toAxis w.io.platformTimeMs).1 = .accepted then
        [.ofEvaluate { w.afterTime with
          toAxis := (homingBegin w.afterTime.toAxis w.io.platformTimeMs).2 }.publish]
      else []) (commandHome w).2 := by
  unfold commandHome
  dsimp only
  split_ifs
  · have hbegin : SameEvidence w { w.afterTime with
        toAxis := (homingBegin w.afterTime.toAxis w.io.platformTimeMs).2 }.publish := .of_eq rfl
    exact ((leads_evaluate _).after_same hbegin).before_same (sameEvidence_runtimeSafetySync _)
  · exact leads_of_eq rfl

/-- The enforcements of a command. -/
lemma leads_command (w : World) (command : MotionCommand) :
    Leads w (commandEnforcements w command) (runtimeSafetyCommand w command).2 := by
  unfold commandEnforcements runtimeSafetyCommand
  by_cases hestop : command.type = .estop
  · rw [if_pos hestop, if_pos hestop]
    exact (Enforcement.sound_ofEstop w).leads.before_same (sameEvidence_runtimeSafetySync _)
  rw [if_neg hestop, if_neg hestop]
  by_cases hreset : command.type = .reset
  · rw [if_pos hreset, if_pos hreset]
    split_ifs with hbusy
    · rw [commandReset, if_pos hbusy]
      exact leads_of_eq rfl
    · exact leads_commandReset w hbusy
  rw [if_neg hreset, if_neg hreset]
  by_cases hstop : w.safety.state = .idle ∧ w.motion.data.state = .homing ∧ command.type = .stop
  · rw [if_pos hstop, if_pos hstop]
    have hstopped : SameEvidence w (commandStopHoming w) := ⟨rfl, Or.inr ⟨rfl, rfl⟩⟩
    exact hstopped.leads
  rw [if_neg hstop, if_neg hstop]
  by_cases hclosed : (w.safety.state ≠ .idle ∨ w.io.motor.inhibited) ∧ !w.parkedHome
  · rw [if_pos hclosed, if_pos hclosed]
    exact leads_of_eq rfl
  rw [if_neg hclosed, if_neg hclosed]
  by_cases hhome : command.type = .home
  · rw [if_pos hhome, if_pos hhome]
    exact leads_commandHome w
  rw [if_neg hhome, if_neg hhome]
  unfold commandDepart
  dsimp only
  split_ifs
  · exact leads_of_eq rfl
  · exact leads_of_eq rfl
  · have hcommanded : SameEvidence w
        { w with toAxis := (motionCommand w.toAxis command).2 } := .of_eq rfl
    exact (leads_reevaluate _).after_same hcommanded
  · exact leads_of_eq rfl

/-- The enforcements at the end of a seek. -/
lemma leads_seekUpdate (w : World) (inputs : GpioInputs) (now : UInt32) :
    Leads w (seekEnforcements w inputs now) (seekUpdate w inputs now).2 := by
  have hupdated : SameEvidence w { w with toAxis := (homingUpdate w.toAxis inputs now).2 } :=
    .of_eq rfl
  unfold seekEnforcements seekUpdate
  dsimp only
  split_ifs with hfailed
  · exact hupdated.leads
  · refine Leads.after_same ?_ hupdated
    generalize { w with toAxis := (homingUpdate w.toAxis inputs now).2 } = v
    unfold finishEnforcements finishHoming
    split_ifs
    · have htimeout := (Enforcement.sound_ofTimeout v now).leads
      exact htimeout.before_same (sameEvidence_runtimeSafetySync _)
    · have hgrant : SameEvidence v (grantContact v) := ⟨rfl, Or.inr ⟨rfl, rfl⟩⟩
      exact (leads_evaluate _).after_same hgrant
    · exact leads_of_eq rfl

/-- The enforcements of the update in `HOMING`. -/
lemma leads_homingControl (w : World) (now : UInt32) :
    Leads w (homingEnforcements w now) (homingControl w now).2 := by
  have hread : SameEvidence w { w with io := w.io.afterGpio } := .of_eq rfl
  refine Leads.after_same ?_ hread
  unfold homingEnforcements homingControl
  dsimp only
  generalize { w with io := w.io.afterGpio } = v
  split_ifs
  · exact leads_reevaluate v
  · exact (leads_reevaluate v).trans (leads_seekUpdate _ _ _)
  · exact leads_seekUpdate v _ _

/-- The enforcements of the control update. -/
lemma leads_controlUpdate (w : World) (dt : FloatValue) (now : UInt32) :
    Leads w (updateEnforcements w now) (runtimeControlUpdate w dt now).2 := by
  unfold updateEnforcements runtimeControlUpdate
  by_cases hhome : w.motion.data.state ≠ .homing
  · rw [if_pos hhome, if_pos hhome]
    split_ifs
    · exact (leads_reevaluate w).before_same (.of_eq rfl)
    · exact leads_of_eq rfl
  · rw [if_neg hhome, if_neg hhome]
    exact leads_homingControl w now

omit [Rounding] in
/-- The enforcement after a failed update. -/
lemma leads_updateFailed (w : World) (active : Bool) :
    Leads w [.ofInternal (if active then w.countAbort else w) w.task.nowMs]
      (updateFailed w active) := by
  have hcounted : SameEvidence w (if active then w.countAbort else w) := by
    split_ifs <;> exact ⟨rfl, Or.inr ⟨rfl, rfl⟩⟩
  exact ((leads_raiseInternal _ _).after_same hcounted).before_same
    (sameEvidence_runtimeSafetySync _)

/-- The enforcements of the control section of a release. -/
lemma leads_controlSection (w : World) :
    Leads w (controlEnforcements w) (controlSection w).2 := by
  refine Leads.after_same ?_ (sameEvidence_runtimeSafetySync w)
  unfold controlEnforcements controlSection
  dsimp only
  generalize runtimeSafetySync w = v
  have hattempt : Leads v (if v.task.sampled then updateEnforcements v v.task.nowMs else [])
      (attemptUpdate v).2 := by
    unfold attemptUpdate
    split_ifs
    · exact leads_controlUpdate v _ _
    · exact leads_of_eq rfl
  refine hattempt.trans ?_
  generalize attemptUpdate v = updated
  by_cases hok : updated.1 = true
  · rw [if_pos hok, if_pos hok]
    exact leads_of_eq rfl
  · rw [if_neg hok, if_neg hok]
    exact leads_updateFailed updated.2 _

omit [Rounding] in
/-- The enforcement after a failed sample. -/
lemma leads_sampleFailed (w : World) : Leads w [sampleEnforcement w] (sampleFailed w) := by
  unfold sampleEnforcement sampleFailed
  dsimp only
  refine Leads.after_same (leads_raiseInternal _ _) ?_
  split_ifs <;> exact ⟨rfl, Or.inr ⟨rfl, rfl⟩⟩

/-- **Step lemma.**  The listed enforcements lead from every world to the next one. -/
theorem leads_step (a : Action) (w : World) : Leads w (enforcements a w) (step a w) := by
  cases a with
  | motion r =>
    change Leads w _ (motionStep w r)
    unfold enforcements motionStep
    cases hphase : w.task.phase with
    | create => exact leads_of_eq rfl
    | configure =>
      unfold taskConfigure
      dsimp only
      split <;> exact leads_of_eq rfl
    | anchor => exact leads_of_eq rfl
    | begin =>
      unfold taskBegin
      dsimp only
      split_ifs <;> exact leads_of_eq rfl
    | clock => exact leads_of_eq rfl
    | sample => exact leads_of_eq rfl
    | reconcile =>
      have hgoto : ∀ v, SameEvidence v ((runtimeSafetySync v).goto (.receive 0)) :=
        fun v =>
          have hsync := sameEvidence_runtimeSafetySync v
          ⟨hsync.zeroMs, hsync.latch⟩
      unfold taskReconcile
      dsimp only
      split_ifs
      · exact (hgoto w).leads
      · exact (leads_sampleFailed w).before_same (hgoto _)
    | receive i =>
      unfold taskReceive
      dsimp only
      split
      next => exact leads_of_eq rfl
      next =>
        split_ifs <;> exact leads_of_eq rfl
    | execute i command =>
      unfold taskExecute
      dsimp only
      split_ifs
      · exact (leads_command w _).before_same (.of_eq rfl)
      · exact leads_of_eq rfl
    | report i result => exact leads_of_eq rfl
    | update => exact (leads_controlSection w).before_same (.of_eq rfl)
  | safety =>
    refine (leads_evaluate w).before_same ?_
    change SameEvidence _ (safetyTask w)
    unfold safetyTask
    dsimp only
    generalize runtimeSafetyEvaluate w = v
    split_ifs
    · exact ⟨rfl, Or.inr ⟨rfl, rfl⟩⟩
    · exact .of_eq rfl
  | heartbeat id => exact leads_of_eq rfl
  | request duty => exact leads_of_eq rfl

/-! ### Runs -/

/-- Along a run of prompt enforcements the evidence follows the rule. -/
theorem leads_run (w : World) (as : List Action) :
    Leads w (enforcementsFrom w as) (Machine.run step w as) := by
  induction as generalizing w with
  | nil => exact leads_of_eq rfl
  | cons a as ih => exact (leads_step a w).trans (ih (step a w))

/-- **Stability of the zero-output evidence.**  In a run whose enforcements after a trip, an E-stop
or an escalation read the time of the detection, each of them sets `zero_ms` to the time at which
it runs, and `zero_ms` keeps this value at every enforcement, and at the end of the run, until the
next latch. -/
theorem zero_output_stable (env : Environment) (as : List Action)
    (hprompt : ∀ e ∈ enforcementHistory env as, e.Prompt) (pre : List Enforcement)
    (e : Enforcement) (held rest : List Enforcement)
    (hcut : enforcementHistory env as = pre ++ e :: (held ++ rest)) (hlatch : e.Latches)
    (hheld : ∀ e' ∈ held, ¬ e'.Latches) :
    e.after.safety.zeroMs = e.time ∧ (∀ e' ∈ held, e'.after.safety.zeroMs = e.time) ∧
      (rest = [] → (runtime env as).safety.zeroMs = e.time) := by
  have hinit : (runtimeInit env).Evidenced := ⟨Or.inl rfl, fun h => absurd rfl h⟩
  obtain ⟨-, hfollows⟩ := leads_run (runtimeInit env) as hprompt hinit
  change Follows _ (enforcementHistory env as) (runtime env as).safety.zeroMs at hfollows
  rw [hcut] at hfollows
  obtain ⟨z, -, hfrom⟩ := follows_append.mp hfollows
  obtain ⟨hzero, hafter⟩ := hfrom.after_latch hlatch
  obtain ⟨z', hheld', hrest⟩ := follows_append.mp hafter
  obtain ⟨hall, hlast⟩ := hheld'.stable hheld
  refine ⟨hzero, hall, ?_⟩
  rintro rfl
  exact hrest.trans hlast

/-! ### An E-stop command, followed by one evaluation -/

/-- The Motion task executes `ESTOP`, and the Safety task evaluates once more. -/
def estopThenEvaluate : List Action := startUp ++ release [⟨.estop, 0⟩] ++ [.safety]

/-- The enforcements of that run in binary32 arithmetic. -/
def estopEnforcements (env : Environment) : List Enforcement :=
  @enforcementHistory Binary32.rounding env estopThenEvaluate

/-- `standstill`, but no millisecond passes between the reading of the `ESTOP` and the one of its
enforcement. -/
def promptEnforcement : Environment where
  gpio _ := some {}
  rawCount _ := some 1000
  clock n := if n < 10 then n else n - 1

omit [Rounding] in
/-- A list is cut at an index. -/
lemma cut_at {α : Type*} (l : List α) {i : ℕ} (hi : i < l.length) :
    l = l.take i ++ l[i] :: (l.drop (i + 1) ++ []) := by
  rw [List.append_nil, List.getElem_cons_drop, List.take_append_drop]

omit [Rounding] in
/-- When no millisecond passes between the command and its enforcement, a later evaluation leaves
the evidence alone. -/
theorem zero_output_stable_estop :
    ∃ e ∈ estopEnforcements promptEnforcement, e.Latches ∧
      (runtime32 promptEnforcement estopThenEvaluate).safety.zeroMs = e.time := by
  obtain ⟨hlength, hlatch, hheld⟩ : ∃ hi : 1 < (estopEnforcements promptEnforcement).length,
      (estopEnforcements promptEnforcement)[1].Latches ∧
        ∀ e ∈ (estopEnforcements promptEnforcement).drop 2, ¬ e.Latches := by decide +kernel
  have hprompt : ∀ e ∈ estopEnforcements promptEnforcement, e.Prompt := by decide +kernel
  have hcut := cut_at (estopEnforcements promptEnforcement) hlength
  have hstable := @zero_output_stable Binary32.rounding promptEnforcement estopThenEvaluate hprompt
    _ _ _ [] hcut hlatch hheld
  refine ⟨_, List.getElem_mem hlength, hlatch, ?_⟩
  unfold runtime32
  exact hstable.2.2 rfl

omit [Rounding] in
/-- When a millisecond passes between the two, the next evaluation moves the evidence. -/
theorem zero_output_moves :
    ¬ ∀ (env : Environment) (as : List Action), Monotone env.clock →
      ∀ pre e held rest,
        @enforcementHistory Binary32.rounding env as = pre ++ e :: (held ++ rest) → e.Latches →
        (∀ e' ∈ held, ¬ e'.Latches) →
        e.after.safety.zeroMs = e.time ∧ (∀ e' ∈ held, e'.after.safety.zeroMs = e.time) ∧
          (rest = [] → (runtime32 env as).safety.zeroMs = e.time) := by
  intro h
  obtain ⟨hlength, hlatch, hheld, hmoved⟩ : ∃ hi : 1 < (estopEnforcements standstill).length,
      (estopEnforcements standstill)[1].Latches ∧
        (∀ e ∈ (estopEnforcements standstill).drop 2, ¬ e.Latches) ∧
        (runtime32 standstill estopThenEvaluate).safety.zeroMs ≠
          (estopEnforcements standstill)[1].time := by decide +kernel
  exact hmoved ((h standstill estopThenEvaluate monotone_id _ _ _ []
    (cut_at (estopEnforcements standstill) hlength) hlatch hheld).2.2 rfl)

end Actions

end MotionFirmware
