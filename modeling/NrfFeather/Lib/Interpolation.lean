import Mathlib.Algebra.Order.Field.Basic
import Mathlib.Tactic.FieldSimp
import Mathlib.Tactic.LinearCombination
import Mathlib.Tactic.Ring

/-!
# Piecewise linear interpolation

A curve is given by knots, listed from the highest abscissa down. `eval` is the function that is
linear between two neighbours and constant outside: right of the first knot it has the first
value, left of the last one the last value. For descending knots it is monotone (`eval_mono`) and
stays between the values of the knots (`eval_le`, `le_eval`), and on a piece it is the linear
function of that piece (`eval_eq_segment`). A knot that is put between two neighbours changes
nothing outside their piece (`eval_insert_of_le`, `eval_insert_of_ge`), keeps the curve between
their values there (`eval_insert_mem`), and changes nothing at all if it lies on the piece
(`eval_insert_of_on`).
-/

namespace Interpolation

/-- A point of a curve. -/
structure Knot (K : Type*) where
  x : K
  y : K

section
variable {K : Type*} [Field K] [LinearOrder K]

/-- The linear function through two knots. -/
def segment (hi lo : Knot K) (x : K) : K := lo.y + (hi.y - lo.y) * (x - lo.x) / (hi.x - lo.x)

/-- The piece that ends at `lo`, from its neighbour if there is one. -/
def piece : Option (Knot K) → Knot K → K → K
  | none, lo, _ => lo.y
  | some hi, lo, x => segment hi lo x

/-- The value at `x` of the part of a curve left of `hi`. -/
def evalFrom : Option (Knot K) → List (Knot K) → K → K
  | none, [], _ => 0
  | some hi, [], _ => hi.y
  | hi, lo :: knots, x => if lo.x ≤ x then piece hi lo x else evalFrom (some lo) knots x

/-- The value of a curve at `x`. -/
def eval (knots : List (Knot K)) (x : K) : K := evalFrom none knots x

/-- Neither abscissas nor values rise along the list. -/
def Descending (knots : List (Knot K)) : Prop :=
  knots.Pairwise fun hi lo => lo.x ≤ hi.x ∧ lo.y ≤ hi.y

variable {hi lo mid : Knot K} {pre knots : List (Knot K)} {o : Option (Knot K)} {x x' : K}

/-- From the knot on, the piece down to it applies. -/
theorem evalFrom_cons_of_le (h : lo.x ≤ x) : evalFrom o (lo :: knots) x = piece o lo x := by
  cases o <;> exact if_pos h

/-- Below the knot, the search goes on. -/
theorem evalFrom_cons_of_lt (h : x < lo.x) :
    evalFrom o (lo :: knots) x = evalFrom (some lo) knots x := by
  cases o <;> exact if_neg (not_le.2 h)

/-- What lies left of a knot does not matter right of it. -/
theorem evalFrom_append_of_le (h : lo.x ≤ x) :
    evalFrom o (pre ++ lo :: knots) x = evalFrom o (pre ++ [lo]) x := by
  induction pre generalizing o with
  | nil => rw [List.nil_append, List.nil_append, evalFrom_cons_of_le h, evalFrom_cons_of_le h]
  | cons p pre ih =>
    rw [List.cons_append, List.cons_append]
    rcases le_or_gt p.x x with hp | hp
    · rw [evalFrom_cons_of_le hp, evalFrom_cons_of_le hp]
    · rw [evalFrom_cons_of_lt hp, evalFrom_cons_of_lt hp, ih]

/-- Left of some knots only the last of them matters. -/
theorem evalFrom_append_of_lt (hpre : ∀ p ∈ pre, x < p.x) (h : x < lo.x) :
    evalFrom o (pre ++ lo :: knots) x = evalFrom (some lo) knots x := by
  induction pre generalizing o with
  | nil => rw [List.nil_append, evalFrom_cons_of_lt h]
  | cons p pre ih =>
    rw [List.forall_mem_cons] at hpre
    rw [List.cons_append, evalFrom_cons_of_lt hpre.1, ih hpre.2]

/-! ## One piece -/

omit [LinearOrder K] in
/-- A segment goes through its lower knot. -/
theorem segment_self : segment hi lo lo.x = lo.y := by
  rw [segment, sub_self, mul_zero, zero_div, add_zero]

omit [LinearOrder K] in
/-- A segment goes through its upper knot. -/
theorem segment_right (hx : lo.x ≠ hi.x) : segment hi lo hi.x = hi.y := by
  have hne : hi.x - lo.x ≠ 0 := sub_ne_zero.2 hx.symm
  rw [segment, mul_div_assoc, div_self hne]
  ring

omit [LinearOrder K] in
/-- At its end a piece has the value of the knot, wherever it comes from. -/
theorem piece_self : piece o lo lo.x = lo.y := by
  cases o with
  | none => rfl
  | some hi => exact segment_self

/-- At the abscissa of a knot and left of it, the piece right of the knot does not matter. -/
theorem evalFrom_cons_congr {o' : Option (Knot K)} (h : x ≤ lo.x) :
    evalFrom o (lo :: knots) x = evalFrom o' (lo :: knots) x := by
  rcases h.lt_or_eq with h | rfl
  · rw [evalFrom_cons_of_lt h, evalFrom_cons_of_lt h]
  · rw [evalFrom_cons_of_le le_rfl, evalFrom_cons_of_le le_rfl, piece_self, piece_self]

section
variable [IsStrictOrderedRing K]

/-- A segment between knots that do not fall does not fall. -/
theorem segment_mono (hx : lo.x ≤ hi.x) (hy : lo.y ≤ hi.y) (h : x ≤ x') :
    segment hi lo x ≤ segment hi lo x' := by
  have hmul : (hi.y - lo.y) * (x - lo.x) ≤ (hi.y - lo.y) * (x' - lo.x) :=
    mul_le_mul_of_nonneg_left (sub_le_sub_right h _) (sub_nonneg.2 hy)
  exact add_le_add_right (div_le_div_of_nonneg_right hmul (sub_nonneg.2 hx)) _

/-- From its lower knot on, a segment is not below it. -/
theorem le_segment (hx : lo.x ≤ hi.x) (hy : lo.y ≤ hi.y) (h : lo.x ≤ x) :
    lo.y ≤ segment hi lo x := by
  have hmono := segment_mono hx hy h
  rwa [segment_self] at hmono

/-- Up to its upper knot, a segment is not above it. -/
theorem segment_le (hx : lo.x < hi.x) (hy : lo.y ≤ hi.y) (h : x ≤ hi.x) :
    segment hi lo x ≤ hi.y := by
  have hmono := segment_mono hx.le hy h
  rwa [segment_right hx.ne] at hmono

end

omit [LinearOrder K] in
/-- A knot on a segment splits it into two parts of itself. -/
theorem segment_of_on (hlo : lo.x ≠ mid.x) (hmid : mid.x ≠ hi.x) (hhi : lo.x ≠ hi.x)
    (hon : (mid.y - lo.y) * (hi.x - lo.x) = (hi.y - lo.y) * (mid.x - lo.x)) (x : K) :
    segment mid lo x = segment hi lo x ∧ segment hi mid x = segment hi lo x := by
  have hlo' : mid.x - lo.x ≠ 0 := sub_ne_zero.2 hlo.symm
  have hmid' : hi.x - mid.x ≠ 0 := sub_ne_zero.2 hmid.symm
  have hhi' : hi.x - lo.x ≠ 0 := sub_ne_zero.2 hhi.symm
  constructor
  · rw [segment, segment, add_right_inj, div_eq_div_iff hlo' hhi']
    linear_combination (x - lo.x) * hon
  · rw [segment, segment]
    field_simp
    linear_combination (hi.x - x) * hon

/-! ## The whole curve -/

/-- From the first knot on upwards, the curve has its value. -/
theorem eval_of_le (h : hi.x ≤ x) : eval (hi :: knots) x = hi.y := evalFrom_cons_of_le h

/-- Left of all knots a curve has the last value. -/
theorem eval_of_lt (h : ∀ p ∈ pre ++ [lo], x < p.x) : eval (pre ++ [lo]) x = lo.y := by
  rw [List.forall_mem_append, List.forall_mem_singleton] at h
  exact evalFrom_append_of_lt h.1 h.2

/-- Between two neighbours a curve is linear. -/
theorem eval_eq_segment (hd : Descending (pre ++ hi :: lo :: knots)) (hx : lo.x ≤ x)
    (hx' : x < hi.x) : eval (pre ++ hi :: lo :: knots) x = segment hi lo x := by
  have hpre : ∀ p ∈ pre, x < p.x := by
    intro p hp
    exact hx'.trans_le ((List.pairwise_append.1 hd).2.2 p hp hi (.head _)).1
  rw [eval, evalFrom_append_of_lt hpre hx', evalFrom_cons_of_le hx, piece]

section
variable [IsStrictOrderedRing K]

/-- Below the knot that was passed last, the curve is not above it. -/
theorem evalFrom_le (hd : Descending (hi :: knots)) (hx : x < hi.x) :
    evalFrom (some hi) knots x ≤ hi.y := by
  induction knots generalizing hi with
  | nil => exact le_rfl
  | cons lo knots ih =>
    obtain ⟨hhi, hlo⟩ := List.pairwise_cons.1 hd
    rcases le_or_gt lo.x x with h | h
    · rw [evalFrom_cons_of_le h]
      exact segment_le (h.trans_lt hx) (hhi lo (.head _)).2 hx.le
    · rw [evalFrom_cons_of_lt h]
      exact (ih hlo h).trans (hhi lo (.head _)).2

/-- A bound from below on all knots is one on the curve behind them. -/
theorem le_evalFrom {c : K} (hd : Descending (hi :: knots)) (hc : ∀ p ∈ hi :: knots, c ≤ p.y) :
    c ≤ evalFrom (some hi) knots x := by
  induction knots generalizing hi with
  | nil => exact hc hi (.head _)
  | cons lo knots ih =>
    obtain ⟨hhi, hlo⟩ := List.pairwise_cons.1 hd
    obtain ⟨-, hc⟩ := List.forall_mem_cons.1 hc
    rcases le_or_gt lo.x x with h | h
    · rw [evalFrom_cons_of_le h]
      exact (hc lo (.head _)).trans (le_segment (hhi lo (.head _)).1 (hhi lo (.head _)).2 h)
    · rw [evalFrom_cons_of_lt h]
      exact ih hlo hc

/-- Below the knot that was passed last, the curve does not fall. -/
theorem evalFrom_mono (hd : Descending (hi :: knots)) (h : x ≤ x') (hx : x' < hi.x) :
    evalFrom (some hi) knots x ≤ evalFrom (some hi) knots x' := by
  induction knots generalizing hi with
  | nil => exact le_rfl
  | cons lo knots ih =>
    obtain ⟨hhi, hlo⟩ := List.pairwise_cons.1 hd
    obtain ⟨hhix, hhiy⟩ := hhi lo (.head _)
    rcases le_or_gt lo.x x with hxlo | hxlo
    · rw [evalFrom_cons_of_le hxlo, evalFrom_cons_of_le (hxlo.trans h)]
      exact segment_mono hhix hhiy h
    · rw [evalFrom_cons_of_lt hxlo]
      rcases le_or_gt lo.x x' with hxlo' | hxlo'
      · rw [evalFrom_cons_of_le hxlo']
        exact (evalFrom_le hlo hxlo).trans (le_segment hhix hhiy hxlo')
      · rw [evalFrom_cons_of_lt hxlo']
        exact ih hlo hxlo'

/-- A descending curve is nowhere above its first knot. -/
theorem eval_le (hd : Descending (hi :: knots)) : eval (hi :: knots) x ≤ hi.y := by
  rcases le_or_gt hi.x x with h | h
  · rw [eval_of_le h]
  · rw [eval, evalFrom_cons_of_lt h]
    exact evalFrom_le hd h

/-- A bound from below on all knots is one on the curve. -/
theorem le_eval {c : K} (hd : Descending (hi :: knots)) (hc : ∀ p ∈ hi :: knots, c ≤ p.y) :
    c ≤ eval (hi :: knots) x := by
  rcases le_or_gt hi.x x with h | h
  · rw [eval_of_le h]
    exact hc hi (.head _)
  · rw [eval, evalFrom_cons_of_lt h]
    exact le_evalFrom hd hc

/-- A descending curve is monotone. -/
theorem eval_mono (hd : Descending knots) (h : x ≤ x') : eval knots x ≤ eval knots x' := by
  cases knots with
  | nil => exact le_rfl
  | cons hi knots =>
    rcases le_or_gt hi.x x' with hx' | hx'
    · rw [eval_of_le hx']
      exact eval_le hd
    · have hx : x < hi.x := h.trans_lt hx'
      rw [eval, eval, evalFrom_cons_of_lt hx, evalFrom_cons_of_lt hx']
      exact evalFrom_mono hd h hx'

end

/-! ## Another knot -/

/-- The search finds the value of a knot that all earlier ones lie above. -/
theorem evalFrom_knot (hpre : ∀ p ∈ pre, lo.x < p.x) :
    evalFrom o (pre ++ lo :: knots) lo.x = lo.y := by
  induction pre generalizing o with
  | nil => rw [List.nil_append, evalFrom_cons_of_le le_rfl, piece_self]
  | cons p pre ih =>
    rw [List.forall_mem_cons] at hpre
    rw [List.cons_append, evalFrom_cons_of_lt hpre.1, ih hpre.2]

/-- A curve passes through its knots. -/
theorem eval_knot (hpre : ∀ p ∈ pre, lo.x < p.x) : eval (pre ++ lo :: knots) lo.x = lo.y :=
  evalFrom_knot hpre

/-- A new knot changes nothing right of its neighbours, -/
theorem eval_insert_of_le (h : hi.x ≤ x) :
    eval (pre ++ hi :: mid :: knots) x = eval (pre ++ hi :: knots) x := by
  have hwith : eval (pre ++ hi :: mid :: knots) x = evalFrom none (pre ++ [hi]) x :=
    evalFrom_append_of_le h
  rw [hwith]
  exact (evalFrom_append_of_le h).symm

/-- and nothing left of them. -/
theorem eval_insert_of_ge (hpre : ∀ p ∈ pre, hi.x < p.x) (hmid : mid.x < hi.x)
    (hlo : lo.x < mid.x) (h : x ≤ lo.x) :
    eval (pre ++ hi :: mid :: lo :: knots) x = eval (pre ++ hi :: lo :: knots) x := by
  have hxhi : x < hi.x := h.trans_lt (hlo.trans hmid)
  have hxpre : ∀ p ∈ pre, x < p.x := fun p hp => hxhi.trans (hpre p hp)
  rw [eval, eval, evalFrom_append_of_lt hxpre hxhi, evalFrom_append_of_lt hxpre hxhi,
    evalFrom_cons_of_lt (h.trans_lt hlo), evalFrom_cons_congr h]

/-- Between its neighbours a new knot keeps the curve between their values. -/
theorem eval_insert_mem [IsStrictOrderedRing K]
    (hd : Descending (pre ++ hi :: mid :: lo :: knots)) (hpre : ∀ p ∈ pre, hi.x < p.x)
    (hmid : mid.x < hi.x) (hlo : lo.x < mid.x) (h : lo.x ≤ x) (h' : x ≤ hi.x) :
    lo.y ≤ eval (pre ++ hi :: mid :: lo :: knots) x ∧
      eval (pre ++ hi :: mid :: lo :: knots) x ≤ hi.y := by
  have hleft : eval (pre ++ hi :: mid :: lo :: knots) lo.x = lo.y := by
    have hpre' : ∀ p ∈ pre ++ [hi, mid], lo.x < p.x := by
      simp only [List.forall_mem_append, List.forall_mem_cons]
      exact ⟨fun p hp => (hlo.trans hmid).trans (hpre p hp), hlo.trans hmid, hlo,
        fun _ hp => absurd hp List.not_mem_nil⟩
    have hknot : eval ((pre ++ [hi, mid]) ++ lo :: knots) lo.x = lo.y := eval_knot hpre'
    rwa [List.append_assoc] at hknot
  constructor
  · rw [← hleft]
    exact eval_mono hd h
  · have hright : eval (pre ++ hi :: mid :: lo :: knots) hi.x = hi.y := eval_knot hpre
    rw [← hright]
    exact eval_mono hd h'

/-- A new knot on the segment between its neighbours changes nothing. -/
theorem eval_insert_of_on (hpre : ∀ p ∈ pre, hi.x < p.x) (hmid : mid.x < hi.x)
    (hlo : lo.x < mid.x)
    (hon : (mid.y - lo.y) * (hi.x - lo.x) = (hi.y - lo.y) * (mid.x - lo.x)) :
    eval (pre ++ hi :: mid :: lo :: knots) x = eval (pre ++ hi :: lo :: knots) x := by
  obtain ⟨hleft, hright⟩ := segment_of_on hlo.ne hmid.ne (hlo.trans hmid).ne hon x
  rcases le_or_gt hi.x x with hxhi | hxhi
  · exact eval_insert_of_le hxhi
  have hxpre : ∀ p ∈ pre, x < p.x := fun p hp => hxhi.trans (hpre p hp)
  rcases le_or_gt x lo.x with hxlo | hxlo
  · exact eval_insert_of_ge hpre hmid hlo hxlo
  · rw [eval, eval, evalFrom_append_of_lt hxpre hxhi, evalFrom_append_of_lt hxpre hxhi,
      evalFrom_cons_of_le hxlo.le]
    rcases le_or_gt mid.x x with hxmid | hxmid
    · rw [evalFrom_cons_of_le hxmid]
      exact hright
    · rw [evalFrom_cons_of_lt hxmid, evalFrom_cons_of_le hxlo.le]
      exact hleft

end

end Interpolation
