import NrfFeather.Battery.Level

/-!
# Properties of the battery level

The level as a function of the voltage and of the curve. On the documented curves it rises with
the voltage and stays between 0 and 10000. Another calibration point between two neighbours changes
it only between these two, and nowhere if the point lies on the segment between them. Both are facts
about the rational curve, carried over by `batteryLevelPptt_eq`.
-/

namespace NrfFeather

open Interpolation MachineInt

section
variable {keep : Int → Option Int} {battMV : UInt32}

/-! ## The sentinel -/

/-- The loop reads no point behind one at zero. -/
theorem scan_append_of_zero {pre rest : List BatteryLevelPoint} {z : BatteryLevelPoint}
    {o : Option BatteryLevelPoint} (hz : z.lvlPptt = 0) :
    scan battMV o (pre ++ z :: rest) = scan battMV o (pre ++ [z]) := by
  induction pre generalizing o with
  | nil => simp [scan, hz]
  | cons p pre ih =>
    rw [List.cons_append, List.cons_append, scan, scan, ih]

/-- What lies behind a point at zero does not matter. -/
theorem batteryLevel_append_of_zero {pre rest : List BatteryLevelPoint} {z : BatteryLevelPoint}
    (hz : z.lvlPptt = 0) :
    batteryLevel keep battMV (pre ++ z :: rest) = batteryLevel keep battMV (pre ++ [z]) := by
  have hhead : (pre ++ z :: rest).head? = (pre ++ [z]).head? := by
    cases pre <;> rfl
  rw [batteryLevel, batteryLevel, hhead, scan_append_of_zero hz]

/-! ## Monotonicity -/

/-- A curve as it is documented: it begins at 10000, ends at 0, and never rises. -/
structure DocumentedCurve where
  points : List BatteryLevelPoint
  falling : points.Pairwise fun p q =>
    q.lvlPptt.toNat ≤ p.lvlPptt.toNat ∧ q.lvlMV.toNat ≤ p.lvlMV.toNat
  full : points.head?.map BatteryLevelPoint.lvlPptt = some 10000
  empty : points.getLast?.map BatteryLevelPoint.lvlPptt = some 0

/-- Up to its first point at zero, a documented curve is one that the loop can scan. -/
theorem DocumentedCurve.exists_dischargeCurve (c : DocumentedCurve) :
    ∃ (d : DischargeCurve) (rest : List BatteryLevelPoint), c.points = d.points ++ rest := by
  obtain ⟨last, hlast, hzero⟩ := Option.map_eq_some_iff.1 c.empty
  have hsome : (c.points.find? fun p => p.lvlPptt == 0).isSome := by
    rw [List.find?_isSome]
    exact ⟨last, List.mem_of_getLast? hlast, by simp [hzero]⟩
  obtain ⟨bottom, hfind⟩ := Option.isSome_iff_exists.1 hsome
  obtain ⟨hbottom, upper, rest, hsplit, hupper⟩ := List.find?_eq_some_iff_append.1 hfind
  have hsplit' : c.points = (upper ++ [bottom]) ++ rest := by simpa using hsplit
  have hfalling := c.falling
  rw [hsplit'] at hfalling
  refine ⟨⟨upper, bottom, (List.pairwise_append.1 hfalling).1, fun p hp => ?_,
    by simpa using hbottom⟩, rest, hsplit'⟩
  have hne : p.lvlPptt ≠ 0 := by simpa using hupper p hp
  exact UInt16.pos_iff_ne_zero.2 hne

/-- The result for a curve with more points behind the first one at zero, which the loop does not
reach. -/
theorem DischargeCurve.level_append (d : DischargeCurve) (rest : List BatteryLevelPoint)
    (battMV : UInt32) :
    batteryLevelPptt battMV (d.points ++ rest) = some ⌊eval d.knots (battMV.toNat : ℚ)⌋ := by
  rw [← batteryLevelPptt_eq, points, List.append_assoc]
  exact batteryLevel_append_of_zero d.bottom_zero

/-- The first knot of a curve that begins like a documented one is at 10000. -/
theorem DischargeCurve.knots_head {d : DischargeCurve} {c : DocumentedCurve}
    {rest : List BatteryLevelPoint} (h : c.points = d.points ++ rest) :
    ∃ hi knots, d.knots = hi :: knots ∧ hi.y = 10000 := by
  obtain ⟨p, hp, hfull⟩ := Option.map_eq_some_iff.1 c.full
  cases hpoints : d.points with
  | nil => exact absurd hpoints (List.append_ne_nil_of_right_ne_nil _ (List.cons_ne_nil _ _))
  | cons q points =>
    rw [h, hpoints, List.cons_append, List.head?_cons, Option.some.injEq] at hp
    subst hp
    refine ⟨q.knot, points.map BatteryLevelPoint.knot, by rw [knots, hpoints, List.map_cons], ?_⟩
    rw [BatteryLevelPoint.knot, hfull]
    rfl

/-- On a documented curve a higher voltage never has a lower level, and all levels are between 0 and
10000. -/
theorem battery_level_mono (c : DocumentedCurve) {b₁ b₂ : UInt32} (h : b₁ ≤ b₂) :
    ∃ v₁ v₂, batteryLevelPptt b₁ c.points = some v₁ ∧ batteryLevelPptt b₂ c.points = some v₂ ∧
      0 ≤ v₁ ∧ v₁ ≤ v₂ ∧ v₂ ≤ 10000 := by
  obtain ⟨d, rest, hpoints⟩ := c.exists_dischargeCurve
  obtain ⟨hi, knots, hknots, hfull⟩ := DischargeCurve.knots_head hpoints
  have hd := d.descending
  rw [hpoints]
  refine ⟨_, _, d.level_append rest b₁, d.level_append rest b₂, ?_, ?_, ?_⟩
  · have hnonneg : ∀ k ∈ d.knots, (0 : ℚ) ≤ k.y := by
      intro k hk
      obtain ⟨p, -, rfl⟩ := List.mem_map.1 hk
      exact Nat.cast_nonneg _
    rw [hknots] at hd hnonneg ⊢
    exact Int.floor_nonneg.2 (le_eval hd hnonneg)
  · exact Int.floor_mono (eval_mono hd (Nat.cast_le.2 (UInt32.le_iff_toNat_le.1 h)))
  · rw [hknots] at hd ⊢
    have hle := Int.floor_mono (eval_le hd (x := (b₂.toNat : ℚ)))
    rwa [hfull, show ((10000 : ℚ)) = ((10000 : ℤ) : ℚ) from rfl, Int.floor_intCast] at hle

/-- A discharge curve of a lithium cell, with a flat and a vertical piece. -/
def lipo : DocumentedCurve where
  points := [⟨10000, 3950⟩, ⟨625, 3550⟩, ⟨625, 3500⟩, ⟨300, 3500⟩, ⟨0, 3100⟩]
  falling := by decide
  full := rfl
  empty := rfl

/-- A voltage on the vertical piece, and a higher one. -/
theorem battery_level_mono_lipo :
    (3520 : UInt32) ≤ 3750 ∧ ∃ v₁ v₂, batteryLevelPptt 3520 lipo.points = some v₁ ∧
      batteryLevelPptt 3750 lipo.points = some v₂ ∧ 0 ≤ v₁ ∧ v₁ ≤ v₂ ∧ v₂ ≤ 10000 :=
  ⟨by decide, battery_level_mono lipo (by decide)⟩

/-! ## Another calibration point -/

/-- One point lies strictly below another one in both coordinates. -/
def BatteryLevelPoint.Below (q p : BatteryLevelPoint) : Prop :=
  q.lvlPptt.toNat < p.lvlPptt.toNat ∧ q.lvlMV.toNat < p.lvlMV.toNat

instance (q p : BatteryLevelPoint) : Decidable (q.Below p) := inferInstanceAs (Decidable (_ ∧ _))

/-- To lie below is transitive. -/
theorem BatteryLevelPoint.Below.trans {p q r : BatteryLevelPoint} (hr : r.Below q)
    (hq : q.Below p) : r.Below p :=
  ⟨hr.1.trans hq.1, hr.2.trans hq.2⟩

/-- A curve that falls strictly and ends at 0. -/
structure StrictCurve where
  points : List BatteryLevelPoint
  falling : points.Pairwise fun p q => q.Below p
  empty : points.getLast?.map BatteryLevelPoint.lvlPptt = some 0

/-- A strict curve is one that the loop can scan. -/
theorem StrictCurve.exists_dischargeCurve (c : StrictCurve) :
    ∃ d : DischargeCurve, c.points = d.points := by
  obtain ⟨bottom, hlast, hzero⟩ := Option.map_eq_some_iff.1 c.empty
  obtain ⟨upper, hsplit⟩ := List.getLast?_eq_some_iff.1 hlast
  have hfalling := c.falling
  rw [hsplit] at hfalling
  refine ⟨⟨upper, bottom, hfalling.imp fun h => ⟨h.1.le, h.2.le⟩, ?_, hzero⟩, hsplit⟩
  intro p hp
  have hbelow := (List.pairwise_append.1 hfalling).2.2 p hp bottom (.head _)
  exact UInt16.lt_iff_toNat_lt.2 (Nat.zero_lt_of_lt hbelow.1)

/-- A point strictly between two neighbours keeps the curve falling. -/
theorem falling_insert {pre post : List BatteryLevelPoint} {hi mid lo : BatteryLevelPoint}
    (hfalling : (pre ++ hi :: lo :: post).Pairwise fun p q => q.Below p) (hmid : mid.Below hi)
    (hlo : lo.Below mid) : (pre ++ hi :: mid :: lo :: post).Pairwise fun p q => q.Below p := by
  obtain ⟨hpre, hrest, hcross⟩ := List.pairwise_append.1 hfalling
  obtain ⟨hhi, hrest⟩ := List.pairwise_cons.1 hrest
  obtain ⟨hlo', hpost⟩ := List.pairwise_cons.1 hrest
  have hmid' : ∀ q ∈ lo :: post, q.Below mid :=
    List.forall_mem_cons.2 ⟨hlo, fun q hq => (hlo' q hq).trans hlo⟩
  refine List.pairwise_append.2 ⟨hpre, ?_, ?_⟩
  · exact List.pairwise_cons.2 ⟨List.forall_mem_cons.2 ⟨hmid, hhi⟩,
      List.pairwise_cons.2 ⟨hmid', hrest⟩⟩
  · intro p hp q hq
    rcases List.mem_cons.1 hq with rfl | hq
    · exact hcross p hp _ (.head _)
    · rcases List.mem_cons.1 hq with rfl | hq
      · exact hmid.trans (hcross p hp hi (.head _))
      · exact hcross p hp q (.tail _ hq)

/-- The curve with another point behind the `i`-th one. -/
def StrictCurve.insertAfter (c : StrictCurve) (i : Nat) (mid : BatteryLevelPoint) :
    List BatteryLevelPoint := c.points.insertIdx (i + 1) mid

/-- A point that is put behind another one stands right there. -/
theorem insertIdx_append (pre post : List BatteryLevelPoint) (hi lo mid : BatteryLevelPoint) :
    (pre ++ hi :: lo :: post).insertIdx (pre.length + 1) mid = pre ++ hi :: mid :: lo :: post := by
  induction pre with
  | nil => rfl
  | cons p pre ih =>
    rw [List.cons_append, List.length_cons, List.insertIdx_succ_cons, ih, List.cons_append]

/-- A curve with another point is again a strict curve. -/
theorem StrictCurve.exists_insertAfter (c : StrictCurve) {i : Nat} {hi mid lo : BatteryLevelPoint}
    (hhi : c.points[i]? = some hi) (hlo : c.points[i + 1]? = some lo) (hmid : mid.Below hi)
    (hlow : lo.Below mid) : ∃ c' : StrictCurve, c'.points = c.insertAfter i mid := by
  obtain ⟨pre, post, hsplit, rfl⟩ := exists_append_of_getElem? hhi hlo
  have hfalling := c.falling
  have hempty := c.empty
  rw [hsplit] at hfalling hempty
  refine ⟨⟨pre ++ hi :: mid :: lo :: post, falling_insert hfalling hmid hlow, ?_⟩, ?_⟩
  · rw [← hempty]
    simp
  · rw [insertAfter, hsplit, insertIdx_append]

/-- The point lies on the segment between its neighbours. -/
def BatteryLevelPoint.OnSegment (mid hi lo : BatteryLevelPoint) : Prop :=
  ((mid.lvlPptt.toNat : Int) - lo.lvlPptt.toNat) * ((hi.lvlMV.toNat : Int) - lo.lvlMV.toNat) =
    ((hi.lvlPptt.toNat : Int) - lo.lvlPptt.toNat) * ((mid.lvlMV.toNat : Int) - lo.lvlMV.toNat)

/-- What another point between `hi` and `lo` does to the level. -/
structure InsertedLocally (hi mid lo : BatteryLevelPoint) (battMV : UInt32) (v v' : Int) :
    Prop where
  outside : hi.lvlMV.toNat ≤ battMV.toNat ∨ battMV.toNat ≤ lo.lvlMV.toNat → v' = v
  inside : lo.lvlMV.toNat ≤ battMV.toNat → battMV.toNat ≤ hi.lvlMV.toNat →
    (lo.lvlPptt.toNat : Int) ≤ v' ∧ v' ≤ hi.lvlPptt.toNat
  onSegment : mid.OnSegment hi lo → v' = v

/-- Another calibration point strictly between the points `i` and `i + 1` of a strict curve changes
the level only between these two, keeps it there between their levels, and changes nothing at all if
it lies on the segment between them. -/
theorem insert_local (c : StrictCurve) {i : Nat} {hi mid lo : BatteryLevelPoint}
    (hhi : c.points[i]? = some hi) (hlo : c.points[i + 1]? = some lo) (hmid : mid.Below hi)
    (hlow : lo.Below mid) (battMV : UInt32) :
    ∃ v v', batteryLevelPptt battMV c.points = some v ∧
      batteryLevelPptt battMV (c.insertAfter i mid) = some v' ∧
      InsertedLocally hi mid lo battMV v v' := by
  obtain ⟨c', hc'⟩ := c.exists_insertAfter hhi hlo hmid hlow
  obtain ⟨d, hd⟩ := c.exists_dischargeCurve
  obtain ⟨d', hd'⟩ := c'.exists_dischargeCurve
  obtain ⟨pre, post, hsplit, rfl⟩ := exists_append_of_getElem? hhi hlo
  have hknots : d.knots = pre.map BatteryLevelPoint.knot ++
      hi.knot :: lo.knot :: post.map BatteryLevelPoint.knot := by
    rw [DischargeCurve.knots, ← hd, hsplit, List.map_append, List.map_cons, List.map_cons]
  have hknots' : d'.knots = pre.map BatteryLevelPoint.knot ++
      hi.knot :: mid.knot :: lo.knot :: post.map BatteryLevelPoint.knot := by
    rw [DischargeCurve.knots, ← hd', hc', StrictCurve.insertAfter, hsplit, insertIdx_append,
      List.map_append, List.map_cons, List.map_cons, List.map_cons]
  have hpre : ∀ k ∈ pre.map BatteryLevelPoint.knot, hi.knot.x < k.x := by
    intro k hk
    obtain ⟨p, hp, rfl⟩ := List.mem_map.1 hk
    have hfalling := c.falling
    rw [hsplit] at hfalling
    exact Nat.cast_lt.2 ((List.pairwise_append.1 hfalling).2.2 p hp hi (.head _)).2
  have hmidx : mid.knot.x < hi.knot.x := Nat.cast_lt.2 hmid.2
  have hlox : lo.knot.x < mid.knot.x := Nat.cast_lt.2 hlow.2
  rw [hd, ← hc', hd']
  refine ⟨_, _, batteryLevelPptt_eq d battMV, batteryLevelPptt_eq d' battMV, ?_, ?_, ?_⟩
  · rintro (h | h)
    · rw [hknots, hknots', eval_insert_of_le (knot_x_le h)]
    · rw [hknots, hknots', eval_insert_of_ge hpre hmidx hlox (Nat.cast_le.2 h)]
  · intro h h'
    have hfalls := d'.descending
    rw [hknots'] at hfalls ⊢
    obtain ⟨hle, hge⟩ := eval_insert_mem hfalls hpre hmidx hlox (Nat.cast_le.2 h) (Nat.cast_le.2 h')
    exact ⟨Int.le_floor.2 hle, Int.cast_le.1 ((Int.floor_le _).trans hge)⟩
  · intro hon
    have honq : (mid.knot.y - lo.knot.y) * (hi.knot.x - lo.knot.x) =
        (hi.knot.y - lo.knot.y) * (mid.knot.x - lo.knot.x) := by
      have hcast := congrArg (Int.cast : ℤ → ℚ) hon
      push_cast at hcast
      exact hcast
    rw [hknots, hknots', eval_insert_of_on hpre hmidx hlox honq]

/-- The curve without its flat and its vertical piece. -/
def strictLipo : StrictCurve where
  points := [⟨10000, 3950⟩, ⟨625, 3550⟩, ⟨0, 3100⟩]
  falling := by decide
  empty := rfl

/-- A calibration point between the two upper points, and a voltage below it. -/
theorem insert_local_lipo :
    ∃ v v', batteryLevelPptt 3700 strictLipo.points = some v ∧
      batteryLevelPptt 3700 (strictLipo.insertAfter 0 ⟨5000, 3750⟩) = some v' ∧
      InsertedLocally ⟨10000, 3950⟩ ⟨5000, 3750⟩ ⟨625, 3550⟩ 3700 v v' :=
  insert_local strictLipo rfl rfl (by decide) (by decide) 3700

end

end NrfFeather
