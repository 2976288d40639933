import Mathlib.Tactic.Common

/-!
# Bounded queues

A first-in first-out queue with a capacity.  Sending to a full queue is refused and changes
nothing; receiving takes the oldest item.
-/

/-- A queue of at most `capacity` items, the oldest one first. -/
structure Fifo (α : Type*) (capacity : ℕ) where
  items : List α
  bounded : items.length ≤ capacity

namespace Fifo

variable {α : Type*} {capacity : ℕ}

/-- The queue without items. -/
def empty : Fifo α capacity := ⟨[], Nat.zero_le _⟩

/-- Append an item if there is space, and say whether there was. -/
def send (q : Fifo α capacity) (x : α) : Bool × Fifo α capacity :=
  if h : q.items.length < capacity then
    (true, ⟨q.items ++ [x], by rw [List.length_append]; exact h⟩)
  else (false, q)

/-- Take the oldest item. -/
def receive (q : Fifo α capacity) : Option α × Fifo α capacity :=
  (q.items.head?,
    ⟨q.items.tail, by rw [List.length_tail]; exact Nat.le_trans (Nat.sub_le _ _) q.bounded⟩)

variable (q : Fifo α capacity) (x : α)

@[simp] lemma empty_items : (empty : Fifo α capacity).items = [] := rfl

/-- An item is accepted exactly when there is space. -/
@[simp] lemma send_fst : (q.send x).1 = decide (q.items.length < capacity) := by
  unfold send
  split_ifs with h <;> simp [h]

/-- An accepted item is the youngest one. -/
lemma send_items :
    (q.send x).2.items = if q.items.length < capacity then q.items ++ [x] else q.items := by
  unfold send
  split_ifs <;> rfl

@[simp] lemma receive_fst : q.receive.1 = q.items.head? := rfl

@[simp] lemma receive_items : q.receive.2.items = q.items.tail := rfl

/-- What is received is the head of the queue. -/
lemma toList_receive_append : q.receive.1.toList ++ q.receive.2.items = q.items := by
  rw [receive_fst, receive_items]
  cases q.items <;> rfl

end Fifo
