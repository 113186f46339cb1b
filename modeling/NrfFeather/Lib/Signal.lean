import NrfFeather.Lib.Transition

/-!
# A cell with a wake-up

One side stores a value in a shared cell and then gives a semaphore; the other takes the semaphore
and then reads the cell. The semaphore is bounded, so gives may be dropped, and the cell holds only
the last value, so stores may be overwritten. `Cell.Inv` is why no value is lost for good all the
same: the last value stored was read, or a give is still owed for it, or the semaphore is up, or
the reader is between its take and its read. The steps of the two sides may be interleaved in any
way; `reset` is a store that nobody signals, after which nothing is promised until the next one
that is.
-/

namespace Signal

open Transition

/-- A semaphore whose count never exceeds its limit. -/
structure Sem (limit : Nat) where
  count : Nat
  count_le : count ≤ limit
  deriving DecidableEq

variable {limit : Nat} {α : Type}

/-- A semaphore that no one has given. -/
def Sem.empty : Sem limit := ⟨0, Nat.zero_le _⟩

/-- Count one up; at the limit the give is dropped. -/
def Sem.give (s : Sem limit) : Sem limit := ⟨min (s.count + 1) limit, Nat.min_le_right _ _⟩

/-- Count one down; at zero the taker blocks. -/
def Sem.take (s : Sem limit) : Option (Sem limit) :=
  if s.count = 0 then none else some ⟨s.count - 1, Nat.le_trans (Nat.sub_le _ _) s.count_le⟩

@[simp] theorem Sem.give_count (s : Sem limit) : s.give.count = min (s.count + 1) limit := rfl

/-- A take that succeeds lowers the count by one. -/
theorem Sem.take_eq_some {s s' : Sem limit} : s.take = some s' ↔ s.count = s'.count + 1 := by
  unfold Sem.take
  split
  · rename_i h
    simp only [reduceCtorEq, false_iff]
    omega
  · rename_i h
    obtain ⟨n, hn⟩ := s
    obtain ⟨m, hm⟩ := s'
    simp only [Option.some.injEq, Sem.mk.injEq] at h ⊢
    omega

/-- The shared cell, the semaphore, where the two sides stand, and what they did. -/
structure Cell (α : Type) (limit : Nat) where
  val : α
  sem : Sem limit
  /-- The writer has stored and not yet given. -/
  owed : Bool
  /-- The reader has taken and not yet read. -/
  taken : Bool
  /-- The last value stored since the last `reset`. -/
  stored : Option α
  /-- The value read last. -/
  seen : Option α
  gives : Nat
  takes : Nat

/-- The atomic steps of the two sides. -/
inductive Op (α : Type) where
  | store (v : α)
  | give
  | take
  | read
  | reset (v : α)

/-- One step; `take` blocks while the semaphore is down. -/
def Cell.step (c : Cell α limit) : Op α → Option (Cell α limit)
  | .store v => some { c with val := v, owed := true, stored := some v }
  | .give => some { c with sem := c.sem.give, owed := false, gives := c.gives + 1 }
  | .take => c.sem.take.map fun sem => { c with sem := sem, taken := true, takes := c.takes + 1 }
  | .read => some { c with taken := false, seen := some c.val }
  | .reset v => some { c with val := v, stored := none }

/-- Nothing stored is lost, and no more is taken than was given. -/
structure Cell.Inv (c : Cell α limit) : Prop where
  fresh : ∀ v, c.stored = some v →
    c.val = v ∧ (c.owed = true ∨ 0 < c.sem.count ∨ c.taken = true ∨ c.seen = some v)
  balance : c.takes + c.sem.count ≤ c.gives
  woken : 0 < c.gives → 0 < c.sem.count ∨ 0 < c.takes

/-- Every step of either side keeps the invariant. -/
theorem Cell.Inv.step {c d : Cell α limit} {op : Op α} (hl : 0 < limit) (h : c.Inv)
    (hs : c.step op = some d) : d.Inv := by
  obtain ⟨hf, hb, hw⟩ := h
  cases op with
  | store v =>
    cases hs
    refine ⟨?_, hb, hw⟩
    intro w hv
    cases hv
    exact ⟨rfl, .inl rfl⟩
  | give =>
    cases hs
    refine ⟨fun v hv => ⟨(hf v hv).1, .inr (.inl ?_)⟩, ?_, fun _ => .inl ?_⟩
    · simp only [Sem.give_count]; omega
    · simp only [Sem.give_count]; omega
    · simp only [Sem.give_count]; omega
  | take =>
    obtain ⟨sem, hsem, rfl⟩ := Option.map_eq_some_iff.1 hs
    have hc := Sem.take_eq_some.1 hsem
    refine ⟨fun v hv => ⟨(hf v hv).1, .inr (.inr (.inl rfl))⟩, ?_, fun _ => .inr ?_⟩
    · show c.takes + 1 + sem.count ≤ c.gives
      omega
    · exact Nat.succ_pos _
  | read =>
    cases hs
    refine ⟨fun v hv => ⟨(hf v hv).1, .inr (.inr (.inr ?_))⟩, hb, hw⟩
    exact congrArg some (hf v hv).1
  | reset v =>
    cases hs
    exact ⟨nofun, hb, hw⟩

/-- The invariant holds along every interleaving of the two sides. -/
theorem Cell.Inv.run {c d : Cell α limit} {ops : List (Op α)} (hl : 0 < limit)
    (hr : Run (Steps Cell.step) c ops d) (h : c.Inv) : d.Inv :=
  hr.invariant (fun _ _ _ hi hs => hi.step hl hs) h

/-- When neither side is in the middle of something and the semaphore is down, the value stored
last is in the cell and is the one read last. -/
theorem Cell.Inv.quiet {c : Cell α limit} (h : c.Inv) (ho : c.owed = false) (ht : c.taken = false)
    (hc : c.sem.count = 0) {v : α} (hv : c.stored = some v) : c.val = v ∧ c.seen = some v := by
  obtain ⟨hval, h' | h' | h' | h'⟩ := h.fresh v hv
  · rw [ho] at h'; cases h'
  · omega
  · rw [ht] at h'; cases h'
  · exact ⟨hval, h'⟩

end Signal
