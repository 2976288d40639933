import MotionFirmware.App.Application
import MotionFirmware.Foundation.Fifo

/-!
# The command bus

`command_bus.c`: a bounded queue of commands from Communications to Motion, with counters of the
commands that were sent, received and refused, and the highest number that ever waited.
-/

namespace MotionFirmware

/-- `COMMAND_QUEUE_CAPACITY`. -/
def commandQueueCapacity : ℕ := 8

/-- `command_bus_t` after `command_bus_init`. -/
structure CommandBus where
  queue : Fifo MotionCommand commandQueueCapacity := .empty
  sent : UInt32 := 0
  received : UInt32 := 0
  rejected : UInt32 := 0
  highWater : UInt32 := 0

/-- `command_bus_send`. -/
def commandBusSend (command : MotionCommand) (bus : CommandBus) : Bool × CommandBus :=
  let sent := bus.queue.send command
  if sent.1 then
    let used := UInt32.ofNat sent.2.items.length
    (true, { bus with
      queue := sent.2
      sent := bus.sent + 1
      highWater := if bus.highWater < used then used else bus.highWater })
  else (false, { bus with rejected := bus.rejected + 1 })

/-- `command_bus_receive`. -/
def commandBusReceive (bus : CommandBus) : Option MotionCommand × CommandBus :=
  match bus.queue.receive with
  | (some command, queue) =>
    (some command, { bus with queue := queue, received := bus.received + 1 })
  | (none, _) => (none, bus)

/-- The counters agree with the commands that wait. -/
structure CommandBus.Balanced (bus : CommandBus) : Prop where
  sent : bus.sent = bus.received + UInt32.ofNat bus.queue.items.length
  used_le_highWater : bus.queue.items.length ≤ bus.highWater.toNat
  highWater_le : bus.highWater.toNat ≤ commandQueueCapacity

variable {bus : CommandBus}

/-- A command is sent exactly when there is space, and is then the youngest one. -/
lemma commandBusSend_fst (command : MotionCommand) :
    (commandBusSend command bus).1 = decide (bus.queue.items.length < commandQueueCapacity) := by
  unfold commandBusSend
  dsimp only
  rw [Fifo.send_fst]
  by_cases hspace : bus.queue.items.length < commandQueueCapacity <;> simp [hspace]

lemma commandBusSend_of_space (command : MotionCommand)
    (hspace : bus.queue.items.length < commandQueueCapacity) :
    (commandBusSend command bus).2.queue.items = bus.queue.items ++ [command] ∧
      (commandBusSend command bus).2.sent = bus.sent + 1 ∧
      (commandBusSend command bus).2.received = bus.received ∧
      (commandBusSend command bus).2.rejected = bus.rejected := by
  have hitems := (Fifo.send_items bus.queue command).trans (if_pos hspace)
  unfold commandBusSend
  dsimp only
  rw [Fifo.send_fst, if_pos (decide_eq_true hspace)]
  exact ⟨hitems, rfl, rfl, rfl⟩

lemma commandBusSend_of_full (command : MotionCommand)
    (hfull : ¬ bus.queue.items.length < commandQueueCapacity) :
    (commandBusSend command bus).2 = { bus with rejected := bus.rejected + 1 } := by
  unfold commandBusSend
  dsimp only
  rw [Fifo.send_fst, if_neg (by simpa using hfull)]

/-- Receiving takes the oldest command and counts it. -/
lemma commandBusReceive_cons {command : MotionCommand} {rest : List MotionCommand}
    (h : bus.queue.items = command :: rest) :
    (commandBusReceive bus).1 = some command ∧ (commandBusReceive bus).2.queue.items = rest ∧
      (commandBusReceive bus).2 = { bus with
        queue := bus.queue.receive.2
        received := bus.received + 1 } := by
  have hhead : bus.queue.receive.1 = some command := by rw [Fifo.receive_fst, h, List.head?_cons]
  have htail : bus.queue.receive.2.items = rest := by rw [Fifo.receive_items, h, List.tail_cons]
  unfold commandBusReceive
  rcases hreceive : bus.queue.receive with ⟨first, queue⟩
  rw [hreceive] at hhead htail
  obtain rfl : first = some command := hhead
  exact ⟨rfl, htail, rfl⟩

lemma commandBusReceive_nil (h : bus.queue.items = []) : commandBusReceive bus = (none, bus) := by
  have hhead : bus.queue.receive.1 = none := by rw [Fifo.receive_fst, h, List.head?_nil]
  unfold commandBusReceive
  rcases hreceive : bus.queue.receive with ⟨first, queue⟩
  rw [hreceive] at hhead
  obtain rfl : first = none := hhead
  rfl

namespace CommandBus.Balanced

lemma start : CommandBus.Balanced {} := ⟨rfl, Nat.zero_le _, Nat.zero_le _⟩

/-- The number of waiting commands fits the counter. -/
lemma toNat_used {n : ℕ} (h : n ≤ commandQueueCapacity) : (UInt32.ofNat n).toNat = n := by
  have hlt : n < 2 ^ 32 := Nat.lt_of_le_of_lt h (by decide)
  exact UInt32.toNat_ofNat_of_lt' hlt

lemma send (h : bus.Balanced) (command : MotionCommand) :
    (commandBusSend command bus).2.Balanced := by
  by_cases hspace : bus.queue.items.length < commandQueueCapacity
  · obtain ⟨hitems, hsent, hreceived, -⟩ := commandBusSend_of_space command hspace
    have hlength : (bus.queue.items ++ [command]).length = bus.queue.items.length + 1 := by simp
    have hused := toNat_used (n := bus.queue.items.length + 1) hspace
    have hhigh : (commandBusSend command bus).2.highWater =
        if bus.highWater < UInt32.ofNat (bus.queue.items.length + 1) then
          UInt32.ofNat (bus.queue.items.length + 1) else bus.highWater := by
      have hitems' := (Fifo.send_items bus.queue command).trans (if_pos hspace)
      unfold commandBusSend
      dsimp only
      rw [Fifo.send_fst, if_pos (decide_eq_true hspace), hitems', hlength]
    have hused_le := h.used_le_highWater
    have hhigh_le := h.highWater_le
    refine ⟨?_, ?_, ?_⟩
    · rw [hsent, hreceived, hitems, hlength, h.sent, UInt32.ofNat_add, UInt32.add_assoc]
      rfl
    · rw [hitems, hlength, hhigh]
      split_ifs with hlt
      · exact Nat.le_of_eq hused.symm
      · rw [UInt32.lt_iff_toNat_lt, hused] at hlt
        omega
    · rw [hhigh]
      split_ifs with hlt
      · rw [hused]
        exact hspace
      · exact hhigh_le
  · rw [commandBusSend_of_full command hspace]
    exact ⟨h.sent, h.used_le_highWater, h.highWater_le⟩

lemma receive (h : bus.Balanced) : (commandBusReceive bus).2.Balanced := by
  cases hitems : bus.queue.items with
  | nil =>
    rw [commandBusReceive_nil hitems]
    exact h
  | cons command rest =>
    obtain ⟨-, hrest, hbus⟩ := commandBusReceive_cons hitems
    have hsent := h.sent
    have hused := h.used_le_highWater
    rw [hitems, List.length_cons] at hsent hused
    refine ⟨?_, ?_, ?_⟩
    · rw [hrest, hbus]
      change bus.sent = bus.received + 1 + UInt32.ofNat rest.length
      rw [hsent, UInt32.ofNat_add, UInt32.add_comm (UInt32.ofNat rest.length), UInt32.add_assoc]
      rfl
    · rw [hrest, hbus]
      exact Nat.le_of_succ_le hused
    · rw [hbus]
      exact h.highWater_le

end CommandBus.Balanced

end MotionFirmware
