/-!
# Bounded queues

A first-in first-out queue that never holds more than its capacity: `put` refuses when the queue is
full, and `get` when it is empty.
-/

namespace Queues

/-- The items in order, the oldest first. -/
structure Queue (capacity : Nat) (α : Type) where
  items : List α
  length_le : items.length ≤ capacity

variable {capacity : Nat} {α : Type}

namespace Queue

def empty : Queue capacity α := ⟨[], Nat.zero_le _⟩

def put (q : Queue capacity α) (a : α) : Option (Queue capacity α) :=
  if h : q.items.length < capacity then
    some ⟨q.items ++ [a], by rw [List.length_append]; exact h⟩
  else none

def get (q : Queue capacity α) : Option (α × Queue capacity α) :=
  match q with
  | ⟨[], _⟩ => none
  | ⟨a :: items, h⟩ => some (a, ⟨items, Nat.le_of_succ_le h⟩)

/-- No more can be put. -/
def Full (q : Queue capacity α) : Prop := q.items.length = capacity

instance (q : Queue capacity α) : Decidable q.Full := inferInstanceAs (Decidable (_ = _))

/-- A put that succeeds adds its element at the end. -/
theorem put_eq_some {q q' : Queue capacity α} {a : α} (h : q.put a = some q') :
    q'.items = q.items ++ [a] := by
  unfold put at h
  split at h
  · cases h
    rfl
  · cases h

/-- A get that succeeds removes the element at the head. -/
theorem get_eq_some {q q' : Queue capacity α} {a : α} (h : q.get = some (a, q')) :
    q.items = a :: q'.items := by
  unfold get at h
  split at h
  · cases h
  · cases h
    rfl

/-- A full queue has something to get. -/
theorem Full.items_ne_nil {q : Queue capacity α} (h : q.Full) (hcapacity : 0 < capacity) :
    q.items ≠ [] := by
  intro hnil
  rw [Full, hnil] at h
  exact absurd h (Nat.ne_of_lt hcapacity)

end Queue

end Queues
