import Mathlib.Data.Rat.Floor
import NrfFeather.Lib.Interpolation
import NrfFeather.Lib.MachineInt

/-!
# The battery level

`battery_level_pptt` of `drivers/battery/battery.c` estimates the remaining capacity from the
measured voltage, with the help of a discharge curve: it scans the curve for the two points around
the voltage and interpolates between them in 32-bit unsigned arithmetic. The array is a list; what
lies outside of it cannot be read.
-/

namespace NrfFeather

open Interpolation MachineInt

/-- `struct battery_level_point`. -/
structure BatteryLevelPoint where
  lvlPptt : UInt16
  lvlMV : UInt16
  deriving DecidableEq

/-! ## The function -/

/-- The loop: from `pb` on, down to the last point or the first at or below the voltage. It
delivers this point and the one before it, where there is one. -/
def scan (battMV : UInt32) : Option BatteryLevelPoint → List BatteryLevelPoint →
    Option (Option BatteryLevelPoint × BatteryLevelPoint)
  | _, [] => none
  | pa, pb :: curve =>
    if pb.lvlPptt > 0 ∧ battMV.toNat < pb.lvlMV.toNat then scan battMV (some pb) curve
    else some (pa, pb)

/-- The interpolation between the points above and below the voltage. The difference of two
`uint16_t` is an `int`, which is converted to `unsigned int` where it is used. -/
def interpolate (keep : Int → Option Int) (battMV : UInt32) (pa pb : BatteryLevelPoint) :
    Option Int := do
  let levels ← keep (pa.lvlPptt.toNat - pb.lvlPptt.toNat)
  let above ← keep (battMV.toNat - pb.lvlMV.toNat)
  let product ← keep (levels * above)
  let width ← keep (pa.lvlMV.toNat - pb.lvlMV.toNat)
  if width = 0 then none
  else keep (pb.lvlPptt.toNat + product / width)

/-- What is returned when the loop has stopped at `pb`. -/
def levelAt (keep : Int → Option Int) (battMV : UInt32) (pa : Option BatteryLevelPoint)
    (pb : BatteryLevelPoint) : Option Int := do
  if battMV.toNat < pb.lvlMV.toNat then
    return pb.lvlPptt.toNat
  -- `pb - 1`
  let pa ← pa
  interpolate keep battMV pa pb

/-- `battery_level_pptt` over an arithmetic; `none` where it reads outside the curve or divides by
zero. -/
def batteryLevel (keep : Int → Option Int) (battMV : UInt32) (curve : List BatteryLevelPoint) :
    Option Int := do
  let pb ← curve.head?
  if battMV.toNat ≥ pb.lvlMV.toNat then
    return pb.lvlPptt.toNat
  let (pa, pb) ← scan battMV none curve
  levelAt keep battMV pa pb

/-- `battery_level_pptt`. -/
def batteryLevelPptt (battMV : UInt32) (curve : List BatteryLevelPoint) : Option Int :=
  batteryLevel (wrapUnsigned 32) battMV curve

/-- The same computation, which fails where a value is out of range. -/
def batteryLevelChecked (battMV : UInt32) (curve : List BatteryLevelPoint) : Option Int :=
  batteryLevel (checkUnsigned 32) battMV curve

/-! ## Arithmetic -/

section
variable {keep keep' : Int → Option Int} {battMV : UInt32} {pa pb : BatteryLevelPoint} {v : Int}

/-- An interpolation whose operations were all checked has the same value in any other
arithmetic. -/
theorem interpolate_refines (hkeep : Refines keep keep')
    (h : interpolate keep battMV pa pb = some v) : interpolate keep' battMV pa pb = some v := by
  simp only [interpolate, Option.bind_eq_bind, Option.bind_eq_some_iff] at h ⊢
  obtain ⟨levels, hlevels, above, habove, product, hproduct, width, hwidth, h⟩ := h
  refine ⟨levels, hkeep _ _ hlevels, above, hkeep _ _ habove, product, hkeep _ _ hproduct, width,
    hkeep _ _ hwidth, ?_⟩
  split at h
  · cases h
  · next hne =>
    rw [if_neg hne]
    exact hkeep _ _ h

/-- So has the value behind the loop. -/
theorem levelAt_refines (hkeep : Refines keep keep') {o : Option BatteryLevelPoint}
    (h : levelAt keep battMV o pb = some v) : levelAt keep' battMV o pb = some v := by
  unfold levelAt at h ⊢
  split at h
  · next hlt =>
    rw [if_pos hlt]
    exact h
  · next hlt =>
    rw [if_neg hlt]
    cases o with
    | none => cases h
    | some pa => exact interpolate_refines hkeep h

/-- So has the level. -/
theorem batteryLevel_refines (hkeep : Refines keep keep') {curve : List BatteryLevelPoint}
    (h : batteryLevel keep battMV curve = some v) : batteryLevel keep' battMV curve = some v := by
  unfold batteryLevel at h ⊢
  cases curve with
  | nil => cases h
  | cons pb curve =>
    simp only [List.head?_cons, Option.bind_eq_bind, Option.bind_some] at h ⊢
    split at h
    · next hge =>
      rw [if_pos hge]
      exact h
    · next hge =>
      rw [if_neg hge]
      obtain ⟨⟨pa, pb'⟩, hscan, h⟩ := Option.bind_eq_some_iff.1 h
      exact Option.bind_eq_some_iff.2 ⟨⟨pa, pb'⟩, hscan, levelAt_refines hkeep h⟩

/-- Where the checked computation succeeds, the code computes the same. -/
theorem batteryLevelPptt_of_checked {curve : List BatteryLevelPoint}
    (h : batteryLevelChecked battMV curve = some v) : batteryLevelPptt battMV curve = some v :=
  batteryLevel_refines (checkUnsigned_refines 32) h

/-- A point as a knot of the rational curve. -/
def BatteryLevelPoint.knot (p : BatteryLevelPoint) : Knot ℚ := ⟨p.lvlMV.toNat, p.lvlPptt.toNat⟩

/-- Between two points of a falling curve the interpolation is exact but for the rounding down, and
no operation of it overflows. -/
theorem interpolate_checked (hp : pb.lvlPptt.toNat ≤ pa.lvlPptt.toNat)
    (hlo : pb.lvlMV.toNat ≤ battMV.toNat) (hhi : battMV.toNat < pa.lvlMV.toNat) :
    interpolate (checkUnsigned 32) battMV pa pb =
      some ⌊segment pa.knot pb.knot (battMV.toNat : ℚ)⌋ := by
  have hpa := pa.lvlPptt.toNat_lt
  have hma := pa.lvlMV.toNat_lt
  obtain ⟨levels, hlevels⟩ := Nat.exists_eq_add_of_le hp
  obtain ⟨above, habove⟩ := Nat.exists_eq_add_of_le hlo
  obtain ⟨width, hwidth⟩ := Nat.exists_eq_add_of_le (hlo.trans hhi.le)
  have hpos : 0 < width := by omega
  have hproduct : levels * above < 2 ^ 32 :=
    (Nat.mul_le_mul (show levels ≤ 65535 by omega) (show above ≤ 65535 by omega)).trans_lt
      (by norm_num)
  have hquot : levels * above / width ≤ levels :=
    Nat.div_le_of_le_mul (by rw [Nat.mul_comm]; exact Nat.mul_le_mul_right _ (by omega))
  have hsegment : segment pa.knot pb.knot (battMV.toNat : ℚ) =
      (pb.lvlPptt.toNat : ℚ) + ((levels * above : ℕ) : ℚ) / (width : ℕ) := by
    simp only [Interpolation.segment, BatteryLevelPoint.knot, hlevels, habove, hwidth]
    push_cast
    ring_nf
  have hfloor : ⌊segment pa.knot pb.knot (battMV.toNat : ℚ)⌋ =
      pb.lvlPptt.toNat + (levels * above : ℕ) / (width : ℕ) := by
    rw [hsegment, Int.floor_natCast_add, Rat.floor_natCast_div_natCast]
  have hkeep (n : ℕ) (hn : n < 2 ^ 32) : checkUnsigned 32 n = some (n : Int) :=
    checkUnsigned_eq (by omega) (by exact_mod_cast hn)
  have hlevels' : (pa.lvlPptt.toNat : Int) - pb.lvlPptt.toNat = levels := by omega
  have habove' : (battMV.toNat : Int) - pb.lvlMV.toNat = above := by omega
  have hwidth' : (pa.lvlMV.toNat : Int) - pb.lvlMV.toNat = width := by omega
  have hne : (width : Int) ≠ 0 := by omega
  simp only [interpolate, Option.bind_eq_bind, Option.bind_eq_some_iff]
  refine ⟨levels, ?_, above, ?_, (levels * above : ℕ), ?_, width, ?_, ?_⟩
  · rw [hlevels']
    exact hkeep levels (by omega)
  · rw [habove']
    exact hkeep above (by omega)
  · rw [← Nat.cast_mul]
    exact hkeep _ hproduct
  · rw [hwidth']
    exact hkeep width (by omega)
  · rw [if_neg hne, hfloor, ← Int.natCast_ediv, ← Nat.cast_add]
    exact hkeep _ (by omega)

/-! ## Curves -/

/-- A discharge curve as the loop needs it: it falls, and its last point is the only one at zero. -/
structure DischargeCurve where
  upper : List BatteryLevelPoint
  bottom : BatteryLevelPoint
  falling : (upper ++ [bottom]).Pairwise fun p q =>
    q.lvlPptt.toNat ≤ p.lvlPptt.toNat ∧ q.lvlMV.toNat ≤ p.lvlMV.toNat
  upper_pos : ∀ p ∈ upper, p.lvlPptt > 0
  bottom_zero : bottom.lvlPptt = 0

/-- The array. -/
def DischargeCurve.points (c : DischargeCurve) : List BatteryLevelPoint := c.upper ++ [c.bottom]

/-- The rational curve through the points. -/
def DischargeCurve.knots (c : DischargeCurve) : List (Knot ℚ) :=
  c.points.map BatteryLevelPoint.knot

/-- Points that fall are knots that descend. -/
theorem descending_map_knot {points : List BatteryLevelPoint}
    (h : points.Pairwise fun p q =>
      q.lvlPptt.toNat ≤ p.lvlPptt.toNat ∧ q.lvlMV.toNat ≤ p.lvlMV.toNat) :
    Descending (points.map BatteryLevelPoint.knot) := by
  refine List.pairwise_map.2 (h.imp fun {p q} hpq => ?_)
  simp only [BatteryLevelPoint.knot, Nat.cast_le]
  exact ⟨hpq.2, hpq.1⟩

/-- The knots of a discharge curve descend. -/
theorem DischargeCurve.descending (c : DischargeCurve) : Descending c.knots :=
  descending_map_knot c.falling

/-- Below the last point the loop came to, its level is the result. -/
theorem levelAt_of_lt {o : Option BatteryLevelPoint} (h : battMV.toNat < pb.lvlMV.toNat) :
    levelAt keep battMV o pb = some (pb.lvlPptt.toNat : Int) := if_pos h

/-- From that point on, the result is interpolated up to the one before it. -/
theorem levelAt_of_ge (h : pb.lvlMV.toNat ≤ battMV.toNat) :
    levelAt keep battMV (some pa) pb = interpolate keep battMV pa pb := if_neg (Nat.not_lt.2 h)

/-- Voltages compare as the coordinates of their knots. -/
theorem knot_x_le {p : BatteryLevelPoint} (h : p.lvlMV.toNat ≤ battMV.toNat) :
    p.knot.x ≤ (battMV.toNat : ℚ) := Nat.cast_le.2 h

/-- The same for a voltage that is strictly lower. -/
theorem lt_knot_x {p : BatteryLevelPoint} (h : battMV.toNat < p.lvlMV.toNat) :
    (battMV.toNat : ℚ) < p.knot.x := Nat.cast_lt.2 h

/-- A loop that stops at a point at or below the voltage leads to the piece above this point. -/
theorem levelAt_checked {curve : List (Knot ℚ)} (hp : pb.lvlPptt.toNat ≤ pa.lvlPptt.toNat)
    (hlo : pb.lvlMV.toNat ≤ battMV.toNat) (hhi : battMV.toNat < pa.lvlMV.toNat) :
    levelAt (checkUnsigned 32) battMV (some pa) pb =
      some ⌊evalFrom (some pa.knot) (pb.knot :: curve) (battMV.toNat : ℚ)⌋ := by
  rw [levelAt_of_ge hlo, interpolate_checked hp hlo hhi, evalFrom_cons_of_le (knot_x_le hlo), piece]

/-- Below `pa`, the rest of the function rounds the rational curve down. -/
theorem scan_levelAt {upper : List BatteryLevelPoint} {bottom : BatteryLevelPoint}
    (hfalling : (pa :: (upper ++ [bottom])).Pairwise fun p q =>
      q.lvlPptt.toNat ≤ p.lvlPptt.toNat ∧ q.lvlMV.toNat ≤ p.lvlMV.toNat)
    (hupper : ∀ p ∈ upper, p.lvlPptt > 0) (hbottom : bottom.lvlPptt = 0)
    (hpa : battMV.toNat < pa.lvlMV.toNat) :
    ((scan battMV (some pa) (upper ++ [bottom])).bind fun r =>
        levelAt (checkUnsigned 32) battMV r.1 r.2) =
      some ⌊evalFrom (some pa.knot) ((upper ++ [bottom]).map BatteryLevelPoint.knot)
        (battMV.toNat : ℚ)⌋ := by
  induction upper generalizing pa with
  | nil =>
    have hstop : scan battMV (some pa) ([] ++ [bottom]) = some (some pa, bottom) := by
      simp [scan, hbottom]
    have hp : bottom.lvlPptt.toNat ≤ pa.lvlPptt.toNat := by simp [hbottom]
    rw [hstop, Option.bind_some]
    rcases Nat.lt_or_ge battMV.toNat bottom.lvlMV.toNat with h | h
    · rw [levelAt_of_lt h, List.nil_append, List.map_singleton,
        evalFrom_cons_of_lt (lt_knot_x h), evalFrom, BatteryLevelPoint.knot, Int.floor_natCast]
    · exact levelAt_checked hp h hpa
  | cons p upper ih =>
    obtain ⟨hpa', hrest⟩ := List.pairwise_cons.1 hfalling
    obtain ⟨hpos, hupper⟩ := List.forall_mem_cons.1 hupper
    rcases Nat.lt_or_ge battMV.toNat p.lvlMV.toNat with h | h
    · have hnext : scan battMV (some pa) (p :: upper ++ [bottom]) =
          scan battMV (some p) (upper ++ [bottom]) := if_pos ⟨hpos, h⟩
      rw [hnext, ih hrest hupper h, List.cons_append, List.map_cons,
        evalFrom_cons_of_lt (lt_knot_x h)]
    · have hstop : scan battMV (some pa) (p :: upper ++ [bottom]) = some (some pa, p) :=
        if_neg fun hc => absurd hc.2 (Nat.not_lt.2 h)
      rw [hstop, Option.bind_some]
      exact levelAt_checked (hpa' p (.head _)).1 h hpa

/-- The code computes the rational curve, rounded down, and no operation of it overflows. -/
theorem batteryLevelChecked_eq (c : DischargeCurve) (battMV : UInt32) :
    batteryLevelChecked battMV c.points = some ⌊eval c.knots (battMV.toNat : ℚ)⌋ := by
  obtain ⟨upper, bottom, hfalling, hupper, hbottom⟩ := c
  simp only [DischargeCurve.points, DischargeCurve.knots, batteryLevelChecked, batteryLevel,
    Option.bind_eq_bind]
  cases upper with
  | nil =>
    simp only [List.nil_append, List.head?_cons, Option.bind_some, List.map_singleton]
    rcases Nat.lt_or_ge battMV.toNat bottom.lvlMV.toNat with h | h
    · have hstop : scan battMV none [bottom] = some (none, bottom) := by simp [scan, hbottom]
      rw [if_neg (Nat.not_le.2 h), hstop, Option.bind_some, levelAt_of_lt h, eval,
        evalFrom_cons_of_lt (lt_knot_x h), evalFrom, BatteryLevelPoint.knot, Int.floor_natCast]
    · rw [if_pos h, eval_of_le (knot_x_le h), BatteryLevelPoint.knot, Int.floor_natCast]
      rfl
  | cons p upper =>
    obtain ⟨hpos, hupper⟩ := List.forall_mem_cons.1 hupper
    simp only [List.cons_append, List.head?_cons, Option.bind_some, List.map_cons]
    rcases Nat.lt_or_ge battMV.toNat p.lvlMV.toNat with h | h
    · have hnext : scan battMV none (p :: (upper ++ [bottom])) =
          scan battMV (some p) (upper ++ [bottom]) := if_pos ⟨hpos, h⟩
      rw [if_neg (Nat.not_le.2 h), hnext, scan_levelAt hfalling hupper hbottom h, eval,
        evalFrom_cons_of_lt (lt_knot_x h)]
    · rw [if_pos h, eval_of_le (knot_x_le h), BatteryLevelPoint.knot, Int.floor_natCast]
      rfl

/-- The level is the rational curve, rounded down. -/
theorem batteryLevelPptt_eq (c : DischargeCurve) (battMV : UInt32) :
    batteryLevelPptt battMV c.points = some ⌊eval c.knots (battMV.toNat : ℚ)⌋ :=
  batteryLevelPptt_of_checked (batteryLevelChecked_eq c battMV)

/-! ## The level of a voltage -/

/-- The points at `i` and `i + 1` lie around the voltage. -/
structure Around (points : List BatteryLevelPoint) (battMV : UInt32) (i : Nat)
    (pa pb : BatteryLevelPoint) : Prop where
  hi : points[i]? = some pa
  lo : points[i + 1]? = some pb
  le : pb.lvlMV.toNat ≤ battMV.toNat
  lt : battMV.toNat < pa.lvlMV.toNat

/-- The result for a voltage: the first level from the first point on upwards, 0 below all points,
and otherwise the exact linear interpolation between the points around it, rounded down. -/
structure IsLevel (points : List BatteryLevelPoint) (battMV : UInt32) (v : Int) : Prop where
  above : ∀ p, points.head? = some p → p.lvlMV.toNat ≤ battMV.toNat → v = p.lvlPptt.toNat
  below : (∀ p ∈ points, battMV.toNat < p.lvlMV.toNat) → v = 0
  between : ∀ i pa pb, Around points battMV i pa pb →
    v = ⌊(pb.lvlPptt.toNat : ℚ) +
      ((pa.lvlPptt.toNat : ℚ) - pb.lvlPptt.toNat) * ((battMV.toNat : ℚ) - pb.lvlMV.toNat) /
        ((pa.lvlMV.toNat : ℚ) - pb.lvlMV.toNat)⌋
  otherwise : (∀ p, points.head? = some p → battMV.toNat < p.lvlMV.toNat) →
    (∃ p ∈ points, p.lvlMV.toNat ≤ battMV.toNat) → ∃ i pa pb, Around points battMV i pa pb

/-- A voltage that is below the first point and not below all has two neighbours to lie between. -/
theorem exists_around {points : List BatteryLevelPoint}
    (hhead : ∀ p, points.head? = some p → battMV.toNat < p.lvlMV.toNat)
    (hbelow : ∃ p ∈ points, p.lvlMV.toNat ≤ battMV.toNat) :
    ∃ i pa pb, Around points battMV i pa pb := by
  induction points with
  | nil =>
    obtain ⟨p, hp, -⟩ := hbelow
    cases hp
  | cons p points ih =>
    have hp := hhead p rfl
    have hbelow' : ∃ q ∈ points, q.lvlMV.toNat ≤ battMV.toNat := by
      obtain ⟨q, hq, hle⟩ := hbelow
      rcases List.mem_cons.1 hq with rfl | hq
      · exact absurd hp (Nat.not_lt.2 hle)
      · exact ⟨q, hq, hle⟩
    cases points with
    | nil =>
      obtain ⟨q, hq, -⟩ := hbelow'
      cases hq
    | cons q points =>
      rcases Nat.lt_or_ge battMV.toNat q.lvlMV.toNat with hq | hq
      · have hhead' : ∀ r, (q :: points).head? = some r → battMV.toNat < r.lvlMV.toNat := by
          rintro r ⟨⟩
          exact hq
        obtain ⟨i, pa, pb, h⟩ := ih hhead' hbelow'
        exact ⟨i + 1, pa, pb, h.hi, h.lo, h.le, h.lt⟩
      · exact ⟨0, p, q, rfl, rfl, hq, hp⟩

/-- Two neighbours split the list. -/
theorem exists_append_of_getElem? {points : List BatteryLevelPoint} {i : Nat}
    (ha : points[i]? = some pa) (hb : points[i + 1]? = some pb) :
    ∃ pre post, points = pre ++ pa :: pb :: post ∧ pre.length = i := by
  induction points generalizing i with
  | nil => cases ha
  | cons p points ih =>
    cases i with
    | zero =>
      cases ha
      cases points with
      | nil => cases hb
      | cons q points =>
        cases hb
        exact ⟨[], points, rfl, rfl⟩
    | succ i =>
      obtain ⟨pre, post, rfl, rfl⟩ := ih ha hb
      exact ⟨p :: pre, post, rfl, rfl⟩

/-- The rational curve, rounded down, is what the result should be. -/
theorem DischargeCurve.isLevel (c : DischargeCurve) (battMV : UInt32) :
    IsLevel c.points battMV ⌊eval c.knots (battMV.toNat : ℚ)⌋ := by
  refine ⟨?_, ?_, ?_, exists_around⟩
  · intro p hp hle
    obtain ⟨rest, hrest⟩ := List.head?_eq_some_iff.1 hp
    rw [knots, hrest, List.map_cons, eval_of_le (knot_x_le hle), BatteryLevelPoint.knot,
      Int.floor_natCast]
  · intro hlt
    have hlt' : ∀ k ∈ c.upper.map BatteryLevelPoint.knot ++ [c.bottom.knot],
        (battMV.toNat : ℚ) < k.x := by
      intro k hk
      rw [← List.map_singleton, ← List.map_append] at hk
      obtain ⟨p, hp, rfl⟩ := List.mem_map.1 hk
      exact lt_knot_x (hlt p hp)
    rw [knots, points, List.map_append, List.map_singleton, eval_of_lt hlt',
      BatteryLevelPoint.knot, c.bottom_zero, Int.floor_natCast]
    rfl
  · intro i pa pb h
    obtain ⟨pre, post, hsplit, -⟩ := exists_append_of_getElem? h.hi h.lo
    have hd := c.descending
    rw [knots, hsplit, List.map_append, List.map_cons, List.map_cons] at hd ⊢
    rw [eval_eq_segment hd (knot_x_le h.le) (lt_knot_x h.lt)]
    rfl

end

/-- For every curve and every voltage the function returns the exact interpolation, rounded down.
The same value comes out when every subtraction, product and sum is checked, so none of them wraps,
and the divisor is not 0. -/
theorem battery_level_interpolates (c : DischargeCurve) (battMV : UInt32) :
    ∃ v, batteryLevelPptt battMV c.points = some v ∧
      batteryLevelChecked battMV c.points = some v ∧ IsLevel c.points battMV v :=
  ⟨_, batteryLevelPptt_eq c battMV, batteryLevelChecked_eq c battMV, c.isLevel battMV⟩

/-- A lithium cell that falls off below 3550 mV. -/
def lithium : DischargeCurve where
  upper := [⟨10000, 3950⟩, ⟨625, 3550⟩]
  bottom := ⟨0, 3100⟩
  falling := by decide
  upper_pos := by decide
  bottom_zero := rfl

/-- At 3750 mV, halfway between the two upper points, 5312.5 is rounded down. -/
theorem battery_level_interpolates_lithium :
    batteryLevelPptt 3750 lithium.points = some 5312 ∧ IsLevel lithium.points 3750 5312 := by
  have heq : batteryLevelPptt 3750 lithium.points = some 5312 := by decide
  obtain ⟨v, hv, -, hlevel⟩ := battery_level_interpolates lithium 3750
  obtain rfl : 5312 = v := Option.some.inj (heq.symm.trans hv)
  exact ⟨heq, hlevel⟩

end NrfFeather
