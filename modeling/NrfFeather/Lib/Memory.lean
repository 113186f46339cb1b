import Mathlib.Algebra.Group.Nat.Defs

/-!
# Byte memory

A memory assigns a byte to every address. `Mem.write` stores a list of bytes and `Mem.Holds` says
that a list of bytes lies at an address; the rules are `write_holds` (what was written is there),
`write_of_lt` and `write_of_le` (nothing else changed), `write_append`, `write_write` and
`write_end` (one write after another), `write_same_iff` (when a write changes nothing),
`holds_append` (a list lies at an address when its parts lie one after the other) and
`Holds.congr` (only the bytes of the list matter). `strlen_of_holds` is the length of a string that
is known to be there.
-/

namespace Memory

abbrev Mem : Type := Nat → UInt8

namespace Mem

variable {m m' : Mem} {a : Nat} {bs cs : List UInt8}

/-- The word at an address, its low byte first. -/
def load32 (m : Mem) (a : Nat) : UInt32 :=
  UInt32.ofNat ((m a).toNat + 2 ^ 8 * (m (a + 1)).toNat + 2 ^ 16 * (m (a + 2)).toNat +
    2 ^ 24 * (m (a + 3)).toNat)

/-- Store some bytes. -/
def write (m : Mem) (a : Nat) (bs : List UInt8) : Mem :=
  fun x => if a ≤ x then bs.getD (x - a) (m x) else m x

/-- The bytes lie at the address. -/
def Holds (m : Mem) (a : Nat) (bs : List UInt8) : Prop :=
  ∀ i (hi : i < bs.length), m (a + i) = bs[i]

/-- Some bytes from an address on. -/
def read (m : Mem) (a n : Nat) : List UInt8 := (List.range n).map fun i => m (a + i)

/-- What was written is there. -/
theorem write_holds (m : Mem) (a : Nat) (bs : List UInt8) : (m.write a bs).Holds a bs := by
  intro i hi
  simp [write, hi]

/-- Below what was written nothing changes. -/
theorem write_of_lt {x : Nat} (hx : x < a) : m.write a bs x = m x := by
  simp only [write]
  rw [if_neg (by omega)]

/-- Behind what was written nothing changes. -/
theorem write_of_le {x : Nat} (hx : a + bs.length ≤ x) : m.write a bs x = m x := by
  simp only [write]
  rw [if_pos (by omega), List.getD_eq_getElem?_getD, List.getElem?_eq_none (by omega)]
  rfl

/-- What lies outside the written bytes is as before. -/
theorem write_outside {x : Nat} (hx : ¬ (a ≤ x ∧ x < a + bs.length)) : m.write a bs x = m x := by
  rcases Nat.lt_or_ge x a with hlt | hge
  · exact write_of_lt hlt
  · exact write_of_le (Nat.le_of_not_lt fun hlt => hx ⟨hge, hlt⟩)

@[simp] theorem write_nil (m : Mem) (a : Nat) : m.write a [] = m := by
  funext x
  simp [write]

/-- Bytes written behind others are as if they were written together. -/
theorem write_append (m : Mem) (a : Nat) (bs cs : List UInt8) :
    (m.write a bs).write (a + bs.length) cs = m.write a (bs ++ cs) := by
  funext x
  rcases Nat.lt_or_ge x (a + bs.length) with hx | hx
  · rw [write_of_lt hx]
    simp only [write, List.getD_eq_getElem?_getD]
    split
    · rw [List.getElem?_append_left (by omega)]
    · rfl
  · have hbs : m.write a bs x = m x := write_of_le hx
    have hoff : x - a - bs.length = x - (a + bs.length) := by omega
    rw [write, if_pos hx, hbs, write, if_pos (by omega), List.getD_eq_getElem?_getD,
      List.getD_eq_getElem?_getD, List.getElem?_append_right (by omega), hoff]

/-- A write that covers an earlier one. -/
theorem write_write (h : bs.length ≤ cs.length) : (m.write a bs).write a cs = m.write a cs := by
  funext x
  rcases Nat.lt_or_ge x (a + bs.length) with hx | hx
  · rcases Nat.lt_or_ge x a with hlt | hge
    · rw [write_of_lt hlt, write_of_lt hlt, write_of_lt hlt]
    · have hcs : x - a < cs.length := by omega
      simp only [write, if_pos hge, List.getD_eq_getElem?_getD, List.getElem?_eq_getElem hcs,
        Option.getD_some]
  · have hbs : m.write a bs x = m x := write_of_le hx
    simp only [write] at hbs ⊢
    rw [hbs]

/-- A write that covers the end of an earlier one. -/
theorem write_end {ds : List UInt8} (h : ds.length ≤ cs.length) :
    (m.write a (bs ++ ds)).write (a + bs.length) cs = m.write a (bs ++ cs) := by
  rw [← write_append, write_write h, write_append]

/-- A write changes nothing in a stretch of memory if what it writes is there already. -/
theorem write_same_iff {n : Nat} (h : bs.length ≤ n) :
    (∀ i < n, m.write a bs (a + i) = m (a + i)) ↔ m.Holds a bs := by
  constructor
  · intro hsame i hi
    rw [← hsame i (Nat.lt_of_lt_of_le hi h), write_holds m a bs i hi]
  · intro hholds i _
    rcases Nat.lt_or_ge i bs.length with hi | hi
    · rw [write_holds m a bs i hi, hholds i hi]
    · exact write_of_le (by omega)

/-- A list of bytes lies at an address when its two parts lie one after the other. -/
theorem holds_append :
    m.Holds a (bs ++ cs) ↔ m.Holds a bs ∧ m.Holds (a + bs.length) cs := by
  constructor
  · intro h
    refine ⟨?_, ?_⟩
    · intro i hi
      rw [h i (by rw [List.length_append]; omega), List.getElem_append_left hi]
    · intro i hi
      have := h (bs.length + i) (by rw [List.length_append]; omega)
      rw [List.getElem_append_right (by omega)] at this
      simpa [Nat.add_assoc] using this
  · rintro ⟨hbs, hcs⟩ i hi
    rw [List.length_append] at hi
    rcases Nat.lt_or_ge i bs.length with h | h
    · rw [List.getElem_append_left h]
      exact hbs i h
    · rw [List.getElem_append_right h, ← hcs (i - bs.length) (by omega)]
      congr 1
      omega

/-- Only the bytes of the list matter. -/
theorem Holds.congr (h : m.Holds a bs) (heq : ∀ x, a ≤ x → x < a + bs.length → m' x = m x) :
    m'.Holds a bs := by
  intro i hi
  rw [heq (a + i) (by omega) (by omega), h i hi]

/-- The bytes that lie at an address are read from there. -/
theorem Holds.read_eq (h : m.Holds a bs) : m.read a bs.length = bs := by
  refine List.ext_getElem (by simp [read]) ?_
  intro i _ hi
  simpa [read] using h i hi

/-! ## Strings -/

def strlenFrom (m : Mem) : Nat → Nat → Nat
  | 0, _ => 0
  | fuel + 1, a => if m a = 0 then 0 else m.strlenFrom fuel (a + 1) + 1

/-- `strlen`, in an address space of 32 bits. -/
def strlen (m : Mem) (a : Nat) : Nat := m.strlenFrom (2 ^ 32) a

/-- Counting from the beginning of a string stops at its NUL, given enough fuel. -/
theorem strlenFrom_of_holds {fuel : Nat} (h : m.Holds a (bs ++ [0])) (hbs : ∀ b ∈ bs, b ≠ 0)
    (hlen : bs.length < fuel) : m.strlenFrom fuel a = bs.length := by
  induction bs generalizing fuel a with
  | nil =>
    obtain ⟨fuel, rfl⟩ := Nat.exists_eq_add_one_of_ne_zero (Nat.ne_of_gt hlen)
    have hnul : m a = 0 := h 0 (by simp)
    simp [strlenFrom, hnul]
  | cons b bs ih =>
    obtain ⟨fuel, rfl⟩ := Nat.exists_eq_add_one_of_ne_zero (Nat.ne_of_gt (Nat.zero_lt_of_lt hlen))
    rw [List.forall_mem_cons] at hbs
    rw [List.length_cons] at hlen
    have hhead : m a = b := h 0 (by simp)
    rw [List.cons_append, ← List.singleton_append, holds_append] at h
    have htail : m.Holds (a + 1) (bs ++ [0]) := h.2
    have hrest : m.strlenFrom fuel (a + 1) = bs.length := ih htail hbs.2 (by omega)
    simp [strlenFrom, hhead, hbs.1, hrest]

/-- The length of a string that is known to lie in memory. -/
theorem strlen_of_holds (h : m.Holds a (bs ++ [0])) (hbs : ∀ b ∈ bs, b ≠ 0)
    (hlen : bs.length < 2 ^ 32) : m.strlen a = bs.length :=
  strlenFrom_of_holds h hbs hlen

end Mem

end Memory
