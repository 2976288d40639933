import MotionFirmware.Foundation.Machine
import MotionFirmware.Rtos.CommsTask

/-!
# Communications loses no wake-up

Before it blocks, Communications looks at the queue once more, and notifies itself if a frame waits.
From then on every frame that arrives is followed by a notification.  So while the task is on its
way to `ulTaskNotifyTake`, or there, a waiting frame means that the value is not zero or that a
producer has still to give its notification.

The health timeout is therefore not needed to read a frame: the steps of the task itself lead to
the read.
-/

namespace MotionFirmware

/-- Communications has looked at the queue and has not yet taken its notifications. -/
def CommsAt.settled : CommsAt → Bool
  | .checkpoint | .heartbeat | .take | .delay => true
  | _ => false

section Invariant

variable {δ ε : Type} {driver : InputDriver δ ε} {p : Pipeline δ}

/-- A waiting frame is announced: by the notification value, or by a producer that owes one. -/
def Announced (driver : InputDriver δ ε) (p : Pipeline δ) : Prop :=
  driver.waiting p.input = [] ∨ 0 < p.notified ∨ ∃ producer, p.owed producer = true

/-- The invariant: what waits is announced when Communications relies on it, and the task is
suspended only after a request to stop. -/
structure Attentive (driver : InputDriver δ ε) (p : Pipeline δ) : Prop where
  announced : p.comms.settled = true → Announced driver p
  parked : p.comms = .parked → p.stopping = true

/-- An arrival keeps the announcement. -/
lemma Announced.arrive (h : Announced driver p) (e : ε) :
    Announced driver (pipelineStep driver (.arrive e) p) := by
  obtain ⟨frames, hframes, hnone⟩ := driver.waiting_arrive e p.input
  cases hsignal : driver.signal e p.input with
  | none =>
    have hstep : pipelineStep driver (.arrive e) p =
        { p with input := driver.arrive e p.input } := by
      simp [pipelineStep, hsignal, Pipeline.notify]
    rw [hstep]
    rcases h with hnil | hnotified
    · refine Or.inl ?_
      rw [hframes, hnil, hnone hsignal, List.nil_append]
    · exact Or.inr hnotified
  | isr =>
    refine Or.inr (Or.inl ?_)
    simp [pipelineStep, hsignal, Pipeline.notify]
  | owed producer =>
    refine Or.inr (Or.inr ⟨producer, ?_⟩)
    simp [pipelineStep, hsignal, Pipeline.notify]

/-- An arrival and `runtime_input_ready` leave the program counter and the request to stop alone. -/
lemma pipelineStep_arrive_comms (driver : InputDriver δ ε) (p : Pipeline δ) (e : ε) :
    (pipelineStep driver (.arrive e) p).comms = p.comms ∧
      (pipelineStep driver (.arrive e) p).stopping = p.stopping := by
  cases hsignal : driver.signal e p.input <;>
    simp [pipelineStep, hsignal, Pipeline.notify]

lemma Attentive.comms (h : Attentive driver p) : Attentive driver (commsTask driver p) := by
  unfold commsTask
  cases hcomms : p.comms with
  | checkpoint =>
    have hannounced : Announced driver p := h.announced (by rw [hcomms]; rfl)
    refine ⟨fun _ => hannounced, fun hparked => ?_⟩
    change p.stopping = true
    by_contra hstopping
    exact absurd ((if_neg hstopping).symm.trans hparked) nofun
  | heartbeat =>
    have hannounced : Announced driver p := h.announced (by rw [hcomms]; rfl)
    exact ⟨fun _ => hannounced, nofun⟩
  | take =>
    dsimp only
    split_ifs
    · exact h
    · exact ⟨nofun, nofun⟩
  | resumed value =>
    cases hstopping : p.stopping with
    | true => exact ⟨nofun, fun _ => hstopping⟩
    | false => exact ⟨nofun, nofun⟩
  | count value => exact ⟨nofun, nofun⟩
  | drain i =>
    cases hread : (driver.tryReadLine p.input).1 with
    | ok line => simp only [hread]; exact ⟨nofun, nofun⟩
    | error error => cases error <;> (simp only [hread]; exact ⟨nofun, nofun⟩)
  | failed => exact ⟨nofun, nofun⟩
  | frame i line =>
    unfold CommsAt.nextRead
    refine ⟨fun hsettled => ?_, fun hparked => ?_⟩
    · dsimp only at hsettled
      split_ifs at hsettled <;> exact absurd hsettled nofun
    · dsimp only at hparked
      split_ifs at hparked
  | pending =>
    -- the queue is read here, and an empty one is the announcement
    cases hpending : driver.rxPending p.input with
    | true => exact ⟨nofun, nofun⟩
    | false =>
      refine ⟨fun _ => Or.inl ?_, nofun⟩
      by_contra hwaiting
      rw [(driver.rxPending_iff _).mpr hwaiting] at hpending
      exact absurd hpending nofun
  | give => exact ⟨fun _ => Or.inr (Or.inl (Nat.succ_pos _)), nofun⟩
  | delay =>
    have hannounced : Announced driver p := h.announced (by rw [hcomms]; rfl)
    exact ⟨fun _ => hannounced, nofun⟩
  | parked => exact h

/-- Motion does not touch what Communications relies on. -/
lemma motionTaskCommands_frame (p : Pipeline δ) :
    (motionTaskCommands p).comms = p.comms ∧ (motionTaskCommands p).input = p.input ∧
      (motionTaskCommands p).notified = p.notified ∧ (motionTaskCommands p).owed = p.owed ∧
      (motionTaskCommands p).stopping = p.stopping := by
  unfold motionTaskCommands
  split
  · exact ⟨rfl, rfl, rfl, rfl, rfl⟩
  · split_ifs
    · split <;> exact ⟨rfl, rfl, rfl, rfl, rfl⟩
    · exact ⟨rfl, rfl, rfl, rfl, rfl⟩
  · exact ⟨rfl, rfl, rfl, rfl, rfl⟩
  · exact ⟨rfl, rfl, rfl, rfl, rfl⟩

/-- Every step keeps Communications attentive. -/
theorem Attentive.step (h : Attentive driver p) (a : PipelineAction ε) :
    Attentive driver (pipelineStep driver a p) := by
  cases a with
  | arrive e =>
    obtain ⟨hcomms, hstopping⟩ := pipelineStep_arrive_comms driver p e
    exact ⟨fun hsettled => (h.announced (hcomms ▸ hsettled)).arrive e,
      fun hparked => hstopping.trans (h.parked (hcomms ▸ hparked))⟩
  | inputReady producer => exact ⟨fun _ => Or.inr (Or.inl (Nat.succ_pos _)), h.parked⟩
  | comms => exact h.comms
  | timeout =>
    unfold pipelineStep commsTimeout
    dsimp only
    split
    · exact ⟨nofun, nofun⟩
    · exact h
  | motion =>
    obtain ⟨hcomms, hinput, hnotified, howed, hstopping⟩ := motionTaskCommands_frame p
    refine ⟨fun hsettled => ?_, fun hparked => hstopping.trans (h.parked (hcomms ▸ hparked))⟩
    have hannounced := h.announced (hcomms ▸ hsettled)
    unfold Announced at hannounced ⊢
    change driver.waiting (motionTaskCommands p).input = [] ∨ 0 < (motionTaskCommands p).notified ∨
      ∃ producer, (motionTaskCommands p).owed producer = true
    rwa [hinput, hnotified, howed]
  | requestStop => exact ⟨h.announced, fun _ => rfl⟩

/-- Communications starts at its checkpoint with an empty queue. -/
lemma Attentive.start {d : δ} (hempty : driver.waiting d = []) :
    Attentive driver { input := d } := ⟨fun _ => Or.inl hempty, nofun⟩

/-! ### The way to the next read -/

/-- A frame waits, and no request to stop has been made. -/
structure Waiting (driver : InputDriver δ ε) (rest : List (List UInt8)) (p : Pipeline δ) :
    Prop where
  waiting : ∃ frame, driver.waiting p.input = frame :: rest
  running : p.stopping = false

/-- The steps of Communications alone, without the timeout, lead to the read of the oldest frame. -/
def Reads (driver : InputDriver δ ε) (rest : List (List UInt8)) (p : Pipeline δ) : Prop :=
  ∃ n, driver.waiting (Machine.run (pipelineStep driver) p (List.replicate n .comms)).input = rest

variable {rest : List (List UInt8)}

lemma Reads.of_step (h : Reads driver rest (commsTask driver p)) : Reads driver rest p := by
  obtain ⟨n, hn⟩ := h
  exact ⟨n + 1, hn⟩

lemma Waiting.reads_drain (h : Waiting driver rest p) {i : ℕ} (hcomms : p.comms = .drain i) :
    Reads driver rest p := by
  obtain ⟨frame, hwaiting⟩ := h.waiting
  refine ⟨1, ?_⟩
  change driver.waiting (commsTask driver p).input = rest
  simp only [commsTask, hcomms]
  exact (driver.tryReadLine_cons _ _ _ hwaiting).1

/-- Once the task has returned from `ulTaskNotifyTake` it comes to its drain. -/
lemma Waiting.reads_resumed (h : Waiting driver rest p) {value : ℕ}
    (hcomms : p.comms = .resumed value) : Reads driver rest p := by
  apply Reads.of_step
  apply Reads.of_step
  have hstep : (commsTask driver (commsTask driver p)).comms = .drain 0 ∧
      (commsTask driver (commsTask driver p)).input = p.input ∧
      (commsTask driver (commsTask driver p)).stopping = p.stopping := by
    simp [commsTask, hcomms, h.running, runtimeCheckpoint]
  obtain ⟨hdrain, hinput, hstopping⟩ := hstep
  exact Waiting.reads_drain ⟨hinput ▸ h.waiting, hstopping.trans h.running⟩ hdrain

lemma Waiting.reads_take (h : Waiting driver rest p) (hcomms : p.comms = .take)
    (hnotified : 0 < p.notified) : Reads driver rest p := by
  apply Reads.of_step
  have hstep : commsTask driver p = p.takeNotifications := by
    simp [commsTask, hcomms, hnotified.ne']
  rw [hstep]
  exact Waiting.reads_resumed ⟨h.waiting, h.running⟩ rfl

lemma Waiting.reads_checkpoint (h : Waiting driver rest p) (hcomms : p.comms = .checkpoint)
    (hnotified : 0 < p.notified) : Reads driver rest p := by
  apply Reads.of_step
  apply Reads.of_step
  have hstep : (commsTask driver (commsTask driver p)).comms = .take ∧
      (commsTask driver (commsTask driver p)).input = p.input ∧
      (commsTask driver (commsTask driver p)).stopping = p.stopping ∧
      (commsTask driver (commsTask driver p)).notified = p.notified := by
    simp [commsTask, hcomms, h.running, runtimeCheckpoint]
  obtain ⟨htake, hinput, hstopping, hsame⟩ := hstep
  exact Waiting.reads_take ⟨hinput ▸ h.waiting, hstopping.trans h.running⟩ htake
    (hsame.symm ▸ hnotified)

/-- At its look at the queue the task finds the frame, and notifies itself. -/
lemma Waiting.reads_pending (h : Waiting driver rest p) (hcomms : p.comms = .pending) :
    Reads driver rest p := by
  obtain ⟨frame, hwaiting⟩ := h.waiting
  have hpending : driver.rxPending p.input = true := by
    rw [driver.rxPending_iff, hwaiting]
    exact nofun
  apply Reads.of_step
  apply Reads.of_step
  apply Reads.of_step
  have hstep : commsTask driver (commsTask driver (commsTask driver p)) =
      { p with notified := p.notified + 1, comms := .checkpoint } := by
    simp [commsTask, hcomms, hpending]
  rw [hstep]
  exact Waiting.reads_checkpoint ⟨h.waiting, h.running⟩ rfl (Nat.succ_pos _)

lemma handleFrame_frame (line : List UInt8) (p : Pipeline δ) :
    (p.handleFrame line).input = p.input ∧ (p.handleFrame line).stopping = p.stopping := by
  unfold Pipeline.handleFrame
  split <;> exact ⟨rfl, rfl⟩

/-- Wherever an attentive task is, its own steps lead to the read of a frame that is announced. -/
theorem Attentive.reads (h : Attentive driver p) (hwaiting : Waiting driver rest p)
    (howed : ∀ producer, p.owed producer = false) : Reads driver rest p := by
  have hnotified : p.comms.settled = true → 0 < p.notified := by
    intro hsettled
    obtain ⟨frame, hframe⟩ := hwaiting.waiting
    rcases h.announced hsettled with hnil | hnotified | ⟨producer, hproducer⟩
    · rw [hframe] at hnil
      exact absurd hnil nofun
    · exact hnotified
    · rw [howed producer] at hproducer
      exact absurd hproducer nofun
  cases hcomms : p.comms with
  | checkpoint => exact hwaiting.reads_checkpoint hcomms (hnotified (by rw [hcomms]; rfl))
  | heartbeat =>
    apply Reads.of_step
    have hstep : commsTask driver p = { p with comms := .take } := by simp only [commsTask, hcomms]
    rw [hstep]
    exact Waiting.reads_take ⟨hwaiting.waiting, hwaiting.running⟩ rfl
      (hnotified (by rw [hcomms]; rfl))
  | take => exact hwaiting.reads_take hcomms (hnotified (by rw [hcomms]; rfl))
  | resumed value => exact hwaiting.reads_resumed hcomms
  | count value =>
    apply Reads.of_step
    have hstep : commsTask driver p = { p with
        inputNotifications := p.inputNotifications + UInt32.ofNat value
        comms := .drain 0 } := by simp only [commsTask, hcomms]
    rw [hstep]
    exact Waiting.reads_drain ⟨hwaiting.waiting, hwaiting.running⟩ rfl
  | drain i => exact hwaiting.reads_drain hcomms
  | failed =>
    apply Reads.of_step
    have hstep : commsTask driver p = { p with
        uartRxErrors := p.uartRxErrors + 1
        comms := .pending } := by simp only [commsTask, hcomms]
    rw [hstep]
    exact Waiting.reads_pending ⟨hwaiting.waiting, hwaiting.running⟩ rfl
  | frame i line =>
    obtain ⟨hinput, hstopping⟩ := handleFrame_frame line p
    apply Reads.of_step
    have hstep : commsTask driver p =
        { p.handleFrame line with comms := .nextRead (i + 1) } := by simp only [commsTask, hcomms]
    have hnext : Waiting driver rest (commsTask driver p) := by
      rw [hstep]
      exact ⟨hinput.symm ▸ hwaiting.waiting, hstopping.trans hwaiting.running⟩
    have hcomms' : (commsTask driver p).comms = .nextRead (i + 1) := by rw [hstep]
    unfold CommsAt.nextRead at hcomms'
    split_ifs at hcomms' with hlimit
    · exact hnext.reads_drain hcomms'
    · exact hnext.reads_pending hcomms'
  | pending => exact hwaiting.reads_pending hcomms
  | give =>
    apply Reads.of_step
    apply Reads.of_step
    have hstep : commsTask driver (commsTask driver p) =
        { p with notified := p.notified + 1, comms := .checkpoint } := by
      simp [commsTask, hcomms]
    rw [hstep]
    exact Waiting.reads_checkpoint ⟨hwaiting.waiting, hwaiting.running⟩ rfl (Nat.succ_pos _)
  | delay =>
    apply Reads.of_step
    have hstep : commsTask driver p = { p with comms := .checkpoint } := by
      simp only [commsTask, hcomms]
    rw [hstep]
    exact Waiting.reads_checkpoint ⟨hwaiting.waiting, hwaiting.running⟩ rfl
      (hnotified (by rw [hcomms]; rfl))
  | parked => exact absurd (h.parked hcomms) (by rw [hwaiting.running]; exact nofun)

/-- Communications is woken up for every frame: when it is blocked with the value at zero, no frame
waits or a producer has still to give its notification; and a frame that waits with no notification
owed is read by steps of the task itself, without the timeout. -/
structure WokenUp (driver : InputDriver δ ε) (p : Pipeline δ) : Prop where
  blocked : p.comms = .take → p.notified = 0 →
    driver.waiting p.input = [] ∨ ∃ producer, p.owed producer = true
  reads : ∀ frame rest, driver.waiting p.input = frame :: rest → p.stopping = false →
    (∀ producer, p.owed producer = false) →
    ∃ n, driver.waiting (Machine.run (pipelineStep driver) p (List.replicate n .comms)).input = rest

lemma Attentive.wokenUp (h : Attentive driver p) : WokenUp driver p := by
  constructor
  · intro hcomms hzero
    rcases h.announced (by rw [hcomms]; rfl) with hnil | hnotified | howed
    · exact Or.inl hnil
    · omega
    · exact Or.inr howed
  · intro frame rest hwaiting hrunning howed
    exact h.reads ⟨⟨frame, hwaiting⟩, hrunning⟩ howed

end Invariant

/-- A driver with an empty queue leads only to pipelines in which Communications is woken up. -/
lemma wokenUp_run {δ ε : Type} (driver : InputDriver δ ε) {d : δ} (hempty : driver.waiting d = [])
    (as : List (PipelineAction ε)) :
    WokenUp driver (Machine.run (pipelineStep driver) { input := d } as) :=
  (Machine.run_invariant_of_forall (I := Attentive driver) (fun a _ h => h.step a)
    (Attentive.start hempty)).wokenUp

/-- The host starts with an empty queue. -/
lemma hostInputInit_empty {events : List HostInputEvent} {h : HostInput}
    (hinit : hostInputInit events = some h) : h.rxQueue.items = [] := by
  unfold hostInputInit at hinit
  split_ifs at hinit
  obtain rfl := Option.some.inj hinit
  rfl

/-- **No lost wake-up.**  On the host, after a successful start, and on the target, whatever the
producers, the tasks and the timeout do and in whatever order, Communications is woken up for every
frame. -/
theorem no_lost_wake_up {events : List HostInputEvent} {h : HostInput}
    (hinit : hostInputInit events = some h) (as : List (PipelineAction HostEvent))
    (bs : List (PipelineAction Reception)) :
    WokenUp hostDriver (Machine.run (pipelineStep hostDriver) { input := h } as) ∧
      WokenUp stm32Driver (Machine.run (pipelineStep stm32Driver) { input := {} } bs) :=
  ⟨wokenUp_run hostDriver (hostInputInit_empty hinit) as, wokenUp_run stm32Driver rfl bs⟩

/-- A frame is submitted while Communications is blocked, and its producer has not yet notified. -/
theorem no_lost_wake_up_submit :
    ∃ h, hostInputInit [] = some h ∧
      WokenUp hostDriver (Machine.run (pipelineStep hostDriver) { input := h }
        [.comms, .comms, .arrive (.submit 0 [ascii 'H'])]) := by
  have hinit : hostInputInit [] = some { script := [], active := true } := rfl
  exact ⟨_, rfl, (no_lost_wake_up hinit _ []).1⟩

end MotionFirmware
