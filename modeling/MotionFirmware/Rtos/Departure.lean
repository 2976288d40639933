import MotionFirmware.Rtos.RecordedCalls

/-!
# The departure allowance

The flag `home_contact` lets the axis leave the switch on which a `HOME` has ended.  It is set by a
completed `HOME` only, lives in `IDLE`, and ends with the first sample that shows the switch
released and with every latch.  While it is set, the motions that start are those to a target
beyond the sampled position and inside the travel, and an active switch that neither a seek nor the
allowance covers latches a fault.
-/

namespace MotionFirmware

variable [Rounding] {k : OperationKind} {w w' : World} {a : Action}

/-- **Provenance in a run.**  An allowance of a reachable world was granted by a step that completed
a `HOME`; since then every call left the state in `IDLE` and no evaluation sampled the switch
released. -/
theorem contact_runtime (env : Environment) (as : List Action)
    (h : (runtime env as).safety.homeContact = true) :
    ∃ bs a cs before after, as = bs ++ a :: cs ∧ CompletesHome a (runtime env bs) ∧
      (runtime env as).calls = before ++ .grantContact :: after ∧
      (runtime env bs).calls <+: before ∧
      before ++ [.grantContact] <+: (runtime env (bs ++ [a])).calls ∧
      Machine.Along SafetyManager.apply KeepsContact
        ((safetyInit env.start).replay (before ++ [.grantContact])) after := by
  have hrec := recorded_runtime env as
  have hcontact : ((safetyInit env.start).replay (runtime env as).calls).homeContact = true := by
    rw [← hrec.core]
    exact h
  obtain ⟨before, after, hcalls, halong⟩ :=
    contact_history (consistent_safetyInit _) rfl hrec.granted hcontact
  obtain ⟨bs, a, cs, has, hpre, hpost, k, v, hperf, hrecords⟩ := exists_step_of_call hcalls
  refine ⟨bs, a, cs, before, after, has, ?_, hcalls, hpre, hpost, halong⟩
  cases k with
  | complete => exact hperf
  | _ => simp [OperationKind.records] at hrecords

/-- Only an accepted `MOVE` or `MOVE_REL` leads into `MOVING`. -/
lemma accepts_of_moving (hreg : w.Regular) (hbefore : w.motion.data.state ≠ .moving)
    (hafter : (step a w).motion.data.state = .moving) :
    Accepts (fun t => t == .moveAbs || t == .moveRel) a w := by
  by_contra hnot
  have hops : Operations (fun k _ => k ≠ .move) w (step a w) :=
    (operations_step hreg a).mono fun k v hk => by
      rintro rfl
      exact hnot hk
  have hboth : (step a w).motion.data.state ≠ .moving ∧ (step a w).safety.Settled := by
    refine hops.invariant (I := fun v => v.motion.data.state ≠ .moving ∧ v.safety.Settled)
      (fun k v v' hk hop hv => ⟨?_, hop.settled hv.2⟩) ⟨hbefore, hreg.settled⟩
    rcases hop.state hv.2 with h | ⟨-, h⟩ | ⟨hmove, -⟩ | h | h | h | h
    · rw [h]
      exact hv.1
    · rw [h]
      exact nofun
    · exact absurd hmove hk
    all_goals rw [h]; exact nofun
  exact hboth.1 hafter

/-- A motion that is accepted under the allowance goes beyond the sampled position and stays inside
the travel. -/
lemma target_of_accepted {command : MotionCommand} (hcontact : w.safety.homeContact = true)
    (htype : command.type = .moveAbs ∨ command.type = .moveRel)
    (hacc : (runtimeSafetyCommand w command).1 = .accepted) :
    w.motion.data.position.toInt < motionTarget w.motion command ∧
      w.motion.config.minimum.toInt ≤ motionTarget w.motion command ∧
      motionTarget w.motion command ≤ w.motion.config.maximum.toInt := by
  have hne : command.type ≠ .estop ∧ command.type ≠ .reset ∧ command.type ≠ .stop ∧
      command.type ≠ .home := by
    rcases htype with h | h <;> simp [h]
  obtain ⟨hestop, hreset, hstop, hhome⟩ := hne
  have hcommand : runtimeSafetyCommand w command = commandDepart w command := by
    unfold runtimeSafetyCommand at hacc ⊢
    rw [if_neg hestop, if_neg hreset, if_neg (fun h => hstop h.2.2)] at hacc ⊢
    by_cases hclosed : (w.safety.state ≠ .idle ∨ w.io.motor.inhibited) ∧ !w.parkedHome
    · rw [if_pos hclosed, if_neg hstop] at hacc
      exact absurd hacc nofun
    · rw [if_neg hclosed, if_neg hhome] at hacc ⊢
      by_cases hbusy : w.motion.data.state = .homing
      · rw [if_pos hbusy] at hacc
        exact absurd hacc nofun
      · rw [if_neg hbusy, if_pos ⟨hcontact, htype⟩]
  rw [hcommand] at hacc
  unfold commandDepart at hacc
  split_ifs at hacc with htarget
  dsimp only at hacc
  rcases motionCommand_cases w.toAxis command with ⟨hrefused, -⟩ | ⟨hstop', -⟩ |
    ⟨-, -, -, hrange, -⟩
  · exact absurd hacc hrefused
  · exact absurd hstop' hstop
  · simp only [MotionController.outOfRange, Bool.or_eq_false_iff, decide_eq_false_iff_not,
      not_lt] at hrange
    exact ⟨not_le.mp htarget, hrange.1, hrange.2⟩

/-- **Life cycle of the departure allowance.** -/
theorem departure_allowance (env : Environment) (as : List Action) :
    ((runtime env as).safety.homeContact = true →
      (runtime env as).safety.state = .idle ∧
      ∃ bs a cs before after, as = bs ++ a :: cs ∧ CompletesHome a (runtime env bs) ∧
        (runtime env as).calls = before ++ .grantContact :: after ∧
        (runtime env bs).calls <+: before ∧
        before ++ [.grantContact] <+: (runtime env (bs ++ [a])).calls ∧
        Machine.Along SafetyManager.apply KeepsContact
          ((safetyInit env.start).replay (before ++ [.grantContact])) after) ∧
    (∀ a, (runtime env as).safety.homeContact = true →
      (runtime env as).motion.data.state ≠ .moving →
      (step a (runtime env as)).motion.data.state = .moving →
      ∃ command, Executes a (runtime env as) command ∧
        (command.type = .moveAbs ∨ command.type = .moveRel) ∧
        (runtime env as).motion.data.position.toInt <
          motionTarget (runtime env as).motion command ∧
        (runtime env as).motion.config.minimum.toInt ≤
          motionTarget (runtime env as).motion command ∧
        motionTarget (runtime env as).motion command ≤
          (runtime env as).motion.config.maximum.toInt) ∧
    (∀ s c, c.inputs.negativeLimit = true → c.motion.state ≠ .homing →
      ¬ (s.homeContact = true ∧ (c.parked = true ∨ c.departing = true)) →
      (safetyEvaluate s c).faults.active.code ≠ .none ∧ (safetyEvaluate s c).state ≠ .idle) := by
  refine ⟨fun h => ⟨(consistent_runtime env as).contact h, contact_runtime env as h⟩,
    fun a hcontact hbefore hafter => ?_, fun s c => faulted_of_negative⟩
  obtain ⟨command, hexec, htype, hacc⟩ :=
    accepts_of_moving (regular_runtime env as) hbefore hafter
  have htype' : command.type = .moveAbs ∨ command.type = .moveRel := by simpa using htype
  exact ⟨command, hexec, htype', target_of_accepted hcontact htype' hacc⟩

end MotionFirmware
