import NrfFeather.Battery.Level
import NrfFeather.Lib.Prog

/-!
# What the scan touches

`battery_level_pptt` gets no length with its curve: the loop runs until it meets a point at zero or
one at or below the voltage, and the interpolation goes back one point. Here the function is a
program that reads the fields of the array by index, before the array as well as behind it, and
divides; what it reads outside of the array, and a quotient by zero, can be anything. Nothing is
assumed of the order of the points.
-/

namespace NrfFeather

open Effects MachineInt

/-! ## Accesses -/

/-- `curve[i].lvl_pptt`, `curve[i].lvl_mV`, and the division. -/
inductive CurveCall where
  | lvlPptt (i : Int)
  | lvlMV (i : Int)
  | divide (dividend divisor : Int)

@[reducible] def CurveCall.Ans : CurveCall → Type
  | .lvlPptt _ | .lvlMV _ => UInt16
  | .divide _ _ => Int

/-- The point at an index, if this is one of the array. -/
def pointAt (curve : List BatteryLevelPoint) (i : Int) : Option BatteryLevelPoint :=
  if 0 ≤ i then curve[i.toNat]? else none

/-- Reads inside the array deliver what is there. The division is one of `unsigned int`, to which
the divisor is converted. -/
def curveEnv : Env CurveCall.Ans (List BatteryLevelPoint) where
  allows curve
    | .lvlPptt i, r => ∀ p, pointAt curve i = some p → r = p.lvlPptt
    | .lvlMV i, r => ∀ p, pointAt curve i = some p → r = p.lvlMV
    | .divide dividend divisor, r => divisor % 2 ^ 32 ≠ 0 → r = dividend / (divisor % 2 ^ 32)
  next curve _ _ := curve

def lvlPptt (i : Int) : Prog CurveCall.Ans UInt16 := .perform (CurveCall.lvlPptt i)

def lvlMV (i : Int) : Prog CurveCall.Ans UInt16 := .perform (CurveCall.lvlMV i)

def divide (dividend divisor : Int) : Prog CurveCall.Ans Int :=
  .perform (CurveCall.divide dividend divisor)

/-! ## The function -/

/-- The loop, from `pb` on, for at most `fuel` rounds; `none` means that it has not ended. -/
def scanFrom (battMV : UInt32) : Nat → Int → Prog CurveCall.Ans (Option Int)
  | 0, _ => return none
  | fuel + 1, pb => do
    let pptt ← lvlPptt pb
    if pptt > 0 then
      let mv ← lvlMV pb
      if battMV.toNat < mv.toNat then scanFrom battMV fuel (pb + 1)
      else return some pb
    else return some pb

/-- What is returned when the loop has stopped at `pb`. -/
def interpolateAt (battMV : UInt32) (pb : Int) : Prog CurveCall.Ans Int := do
  let mv ← lvlMV pb
  if battMV.toNat < mv.toNat then
    let pptt ← lvlPptt pb
    return pptt.toNat
  let pa := pb - 1
  let pptt ← lvlPptt pb
  let ppttAbove ← lvlPptt pa
  let mvAbove ← lvlMV pa
  let levels : Int := (ppttAbove.toNat - pptt.toNat) % 2 ^ 32
  let above : Int := (battMV.toNat - mv.toNat) % 2 ^ 32
  let quotient ← divide (levels * above % 2 ^ 32) (mvAbove.toNat - mv.toNat)
  return (pptt.toNat + quotient) % 2 ^ 32

/-- `battery_level_pptt`. -/
def batteryLevelAccess (fuel : Nat) (battMV : UInt32) : Prog CurveCall.Ans (Option Int) := do
  let mv ← lvlMV 0
  if battMV.toNat ≥ mv.toNat then
    let pptt ← lvlPptt 0
    return some pptt.toNat
  let pb ← scanFrom battMV fuel 0
  match pb with
  | none => return none
  | some pb => some <$> interpolateAt battMV pb

/-! ## Safety -/

/-- The index of the first point at zero. -/
def firstZero (curve : List BatteryLevelPoint) : Nat := curve.findIdx fun p => p.lvlPptt == 0

/-- Points are read from the start of the array up to the first one at zero, and the divisor is
positive. -/
def SafeAccess (curve : List BatteryLevelPoint) : Event CurveCall.Ans → Prop
  | ⟨.lvlPptt i, _⟩ | ⟨.lvlMV i, _⟩ => 0 ≤ i ∧ i ≤ firstZero curve
  | ⟨.divide _ divisor, _⟩ => 0 < divisor

section
variable {curve : List BatteryLevelPoint} {battMV : UInt32} {fuel i : Nat} {p : BatteryLevelPoint}

/-- From the start of the array on, the points are those of the list. -/
theorem pointAt_natCast (curve : List BatteryLevelPoint) (i : Nat) :
    pointAt curve i = curve[i]? := if_pos (Int.natCast_nonneg i)

/-- There are points up to the first one at zero. -/
theorem exists_point (hzero : ∃ p ∈ curve, p.lvlPptt = 0) (hi : i ≤ firstZero curve) :
    ∃ p, curve[i]? = some p := by
  have hlt : firstZero curve < curve.length := by
    refine List.findIdx_lt_length_of_exists ?_
    obtain ⟨p, hp, h⟩ := hzero
    exact ⟨p, hp, beq_iff_eq.2 h⟩
  exact ⟨_, List.getElem?_eq_getElem (hi.trans_lt hlt)⟩

/-- A point that is not at zero is not the first one at zero. -/
theorem lt_firstZero (hi : i ≤ firstZero curve) (hp : curve[i]? = some p) (hpos : p.lvlPptt > 0) :
    i < firstZero curve := by
  refine lt_of_le_of_ne hi fun h => ?_
  obtain ⟨hlt, rfl⟩ := List.getElem?_eq_some_iff.1 hp
  have hz : curve[i].lvlPptt = 0 := by
    subst h
    exact beq_iff_eq.1 (List.findIdx_getElem (p := fun p : BatteryLevelPoint => p.lvlPptt == 0))
  rw [hz] at hpos
  exact absurd hpos (by decide)

/-! ## Reads -/

section
variable {α : Type} {R : α → List BatteryLevelPoint → Prop} {k : UInt16 → Prog CurveCall.Ans α}

/-- A read of a point up to the first one at zero is safe, and delivers the point's field. -/
theorem wp_lvlPptt (hi : i ≤ firstZero curve) (hp : curve[i]? = some p)
    (h : wp curveEnv (k p.lvlPptt) (fun t a s' => (∀ e ∈ t, SafeAccess curve e) ∧ R a s') curve) :
    wp curveEnv (lvlPptt i >>= k) (fun t a s' => (∀ e ∈ t, SafeAccess curve e) ∧ R a s')
      curve := by
  refine wp_call_ensuring fun r hr => ⟨⟨Int.natCast_nonneg i, Int.ofNat_le.2 hi⟩, ?_⟩
  obtain rfl : r = p.lvlPptt := hr p ((pointAt_natCast curve i).trans hp)
  exact h

/-- A read of the voltage of a point up to the first one at zero is safe, and delivers it. -/
theorem wp_lvlMV (hi : i ≤ firstZero curve) (hp : curve[i]? = some p)
    (h : wp curveEnv (k p.lvlMV) (fun t a s' => (∀ e ∈ t, SafeAccess curve e) ∧ R a s') curve) :
    wp curveEnv (lvlMV i >>= k) (fun t a s' => (∀ e ∈ t, SafeAccess curve e) ∧ R a s') curve := by
  refine wp_call_ensuring fun r hr => ⟨⟨Int.natCast_nonneg i, Int.ofNat_le.2 hi⟩, ?_⟩
  obtain rfl : r = p.lvlMV := hr p ((pointAt_natCast curve i).trans hp)
  exact h

end

/-! ## The loop -/

/-- The point that the loop has been at last. -/
def before (curve : List BatteryLevelPoint) : Nat → Option BatteryLevelPoint
  | 0 => none
  | i + 1 => curve[i]?

/-- The loop has come to the point `i`. -/
structure Passed (curve : List BatteryLevelPoint) (battMV : UInt32) (i : Nat) : Prop where
  le : i ≤ firstZero curve
  above : ∀ pa, before curve i = some pa → battMV.toNat < pa.lvlMV.toNat
  rest : scan battMV none curve = scan battMV (before curve i) (curve.drop i)

/-- The loop begins at the first point. -/
theorem Passed.zero (curve : List BatteryLevelPoint) (battMV : UInt32) : Passed curve battMV 0 :=
  ⟨Nat.zero_le _, nofun, rfl⟩

/-- It goes on to the next point when this one has a level and lies above the voltage. -/
theorem Passed.succ (h : Passed curve battMV i) (hp : curve[i]? = some p) (hpos : p.lvlPptt > 0)
    (hlt : battMV.toNat < p.lvlMV.toNat) : Passed curve battMV (i + 1) := by
  obtain ⟨hi, hget⟩ := List.getElem?_eq_some_iff.1 hp
  refine ⟨lt_firstZero h.le hp hpos, ?_, ?_⟩
  · intro pa hpa
    rw [before, hp] at hpa
    cases hpa
    exact hlt
  · rw [h.rest, before, hp, List.drop_eq_getElem_cons hi, hget]
    exact if_pos ⟨hpos, hlt⟩

/-- The loop has ended at the point `p`, with the index `i`. -/
structure Stopped (curve : List BatteryLevelPoint) (battMV : UInt32) (i : Nat)
    (p : BatteryLevelPoint) : Prop extends Passed curve battMV i where
  point : curve[i]? = some p
  scan_eq : scan battMV none curve = some (before curve i, p)

/-- The loop ends at a point that has no level, or does not lie above the voltage. -/
theorem Passed.stop (h : Passed curve battMV i) (hp : curve[i]? = some p)
    (hstop : ¬ (p.lvlPptt > 0 ∧ battMV.toNat < p.lvlMV.toNat)) : Stopped curve battMV i p := by
  refine ⟨h, hp, ?_⟩
  obtain ⟨hi, hget⟩ := List.getElem?_eq_some_iff.1 hp
  rw [h.rest, List.drop_eq_getElem_cons hi, hget]
  exact if_neg hstop

/-- From a point it has come to, the loop ends by the first point at zero, if it is given the
rounds. -/
theorem wp_scanFrom (hzero : ∃ p ∈ curve, p.lvlPptt = 0) (h : Passed curve battMV i) :
    wp curveEnv (scanFrom battMV fuel i) (fun t o s' => (∀ e ∈ t, SafeAccess curve e) ∧
      (firstZero curve < fuel + i → s' = curve ∧ ∃ (j : Nat) (p : BatteryLevelPoint),
        o = some (j : Int) ∧ Stopped curve battMV j p)) curve := by
  induction fuel generalizing i with
  | zero =>
    refine ⟨nofun, ?_⟩
    intro hfuel
    exact absurd h.le (by omega)
  | succ fuel ih =>
    obtain ⟨p, hp⟩ := exists_point hzero h.le
    refine wp_lvlPptt h.le hp ?_
    split
    · next hpos =>
      refine wp_lvlMV h.le hp ?_
      split
      · next hlt =>
        have hnext := ih (h.succ hp hpos hlt)
        have hfuel : fuel + 1 + i = fuel + (i + 1) := by omega
        rw [hfuel]
        exact hnext
      · next hge =>
        exact ⟨nofun, fun _ => ⟨rfl, i, p, rfl, h.stop hp fun hc => hge hc.2⟩⟩
    · next hpos =>
      exact ⟨nofun, fun _ => ⟨rfl, i, p, rfl, h.stop hp fun hc => hpos hc.1⟩⟩

/-! ## The interpolation -/

/-- At the point where the loop has ended, the rest of the function has a point to go back to and a
divisor that is positive. -/
theorem wp_interpolateAt (h : Stopped curve battMV i p)
    (hhead : ∀ p, curve.head? = some p → battMV.toNat < p.lvlMV.toNat) :
    wp curveEnv (interpolateAt battMV i) (fun t v _ => (∀ e ∈ t, SafeAccess curve e) ∧
      levelAt (wrapUnsigned 32) battMV (before curve i) p = some v) curve := by
  refine wp_lvlMV h.le h.point ?_
  split
  · next hlt =>
    refine wp_lvlPptt h.le h.point ?_
    exact ⟨nofun, levelAt_of_lt hlt⟩
  · next hge =>
    cases i with
    | zero =>
      -- the first point is above the voltage, so the loop has not ended there
      exact absurd (hhead p (List.head?_eq_getElem?.trans h.point)) hge
    | succ i =>
      have hi : i ≤ firstZero curve := (Nat.le_succ i).trans h.le
      have hlt : i < curve.length :=
        (Nat.lt_succ_self i).trans (List.getElem?_eq_some_iff.1 h.point).1
      obtain ⟨pa, hpa⟩ : ∃ pa, curve[i]? = some pa := ⟨_, List.getElem?_eq_getElem hlt⟩
      have hwidth : (0 : Int) < pa.lvlMV.toNat - p.lvlMV.toNat := by
        have habove : battMV.toNat < pa.lvlMV.toNat := h.above pa hpa
        omega
      have hne : ((pa.lvlMV.toNat : Int) - p.lvlMV.toNat) % 2 ^ 32 ≠ 0 := by
        have hmax := pa.lvlMV.toNat_lt
        rw [Int.emod_eq_of_lt hwidth.le (by omega)]
        exact hwidth.ne'
      have hpred : ((i + 1 : Nat) : Int) - 1 = i := by omega
      rw [hpred]
      refine wp_lvlPptt h.le h.point ?_
      refine wp_lvlPptt hi hpa ?_
      refine wp_lvlMV hi hpa ?_
      refine wp_call_ensuring fun quotient hquotient => ⟨hwidth, ?_⟩
      obtain rfl := hquotient hne
      refine ⟨nofun, ?_⟩
      rw [before, hpa, levelAt_of_ge (Nat.not_lt.1 hge)]
      exact if_neg hne

/-! ## The access theorem -/

/-- The function reads safely and computes what `batteryLevelPptt` says. -/
theorem wp_batteryLevelAccess (hzero : ∃ p ∈ curve, p.lvlPptt = 0) (battMV : UInt32)
    (hfuel : firstZero curve < fuel) :
    wp curveEnv (batteryLevelAccess fuel battMV) (fun t o _ => (∀ e ∈ t, SafeAccess curve e) ∧
      ∃ v, o = some v ∧ batteryLevelPptt battMV curve = some v) curve := by
  obtain ⟨p, hp⟩ := exists_point hzero (Nat.zero_le _)
  have hhead : curve.head? = some p := List.head?_eq_getElem?.trans hp
  refine wp_lvlMV (Nat.zero_le _) hp ?_
  split
  · next hge =>
    refine wp_lvlPptt (Nat.zero_le _) hp ?_
    refine ⟨nofun, _, rfl, ?_⟩
    rw [batteryLevelPptt, batteryLevel, hhead]
    exact if_pos hge
  · next hlt =>
    have hbelow : ∀ q, curve.head? = some q → battMV.toNat < q.lvlMV.toNat := by
      intro q hq
      obtain rfl := Option.some.inj (hhead.symm.trans hq)
      exact Nat.not_le.1 hlt
    refine wp_bind_ensuring (wp_scanFrom hzero (Passed.zero curve battMV)) ?_
    intro o s' ho
    obtain ⟨rfl, j, pb, rfl, hstop⟩ := ho hfuel
    refine wp_bind_ensuring (wp_interpolateAt hstop hbelow) ?_
    intro v s'' hv
    refine ⟨nofun, v, rfl, ?_⟩
    rw [batteryLevelPptt, batteryLevel, hhead]
    refine (if_neg hlt).trans ?_
    rw [hstop.scan_eq]
    exact hv

/-- Every read and every division has an outcome. -/
theorem curveEnv_answers (curve : List BatteryLevelPoint) (c : CurveCall) :
    ∃ r, curveEnv.allows curve c r := by
  cases c with
  | lvlPptt i => exact ⟨((pointAt curve i).map (·.lvlPptt)).getD 0, fun p hp => by rw [hp]; rfl⟩
  | lvlMV i => exact ⟨((pointAt curve i).map (·.lvlMV)).getD 0, fun p hp => by rw [hp]; rfl⟩
  | divide dividend divisor => exact ⟨_, fun _ => rfl⟩

end

/-- For every array in which some point is at zero and every voltage, the function ends, whatever
the order of the points: the rounds up to the first point at zero are enough, and no point behind
it or before the array is read, nor is anything divided by a number that is not positive. -/
theorem level_access_safe {curve : List BatteryLevelPoint} (hzero : ∃ p ∈ curve, p.lvlPptt = 0)
    (battMV : UInt32) {fuel : Nat} (hfuel : firstZero curve < fuel) :
    (∃ t o s', Exec curveEnv curve (batteryLevelAccess fuel battMV) t o s') ∧
    ∀ t o s', Exec curveEnv curve (batteryLevelAccess fuel battMV) t o s' →
      (∀ e ∈ t, SafeAccess curve e) ∧ ∃ v, o = some v ∧ batteryLevelPptt battMV curve = some v :=
  ⟨exists_exec curveEnv_answers _ _,
    fun _ _ _ h => h.of_wp (wp_batteryLevelAccess hzero battMV hfuel)⟩

/-- The second point lies above the first, and behind the point at zero the curve rises again. -/
def risingCurve : List BatteryLevelPoint := [⟨5000, 3000⟩, ⟨9000, 4000⟩, ⟨0, 2000⟩, ⟨100, 5000⟩]

/-- At 2900 mV the loop runs to the point at zero, and the points behind it are not read. -/
theorem level_access_safe_rising :
    (∃ t o s', Exec curveEnv risingCurve (batteryLevelAccess 3 2900) t o s') ∧
    ∀ t o s', Exec curveEnv risingCurve (batteryLevelAccess 3 2900) t o s' →
      (∀ e ∈ t, SafeAccess risingCurve e) ∧ o = some 4050 := by
  have hzero : ∃ p ∈ risingCurve, p.lvlPptt = 0 := ⟨⟨0, 2000⟩, by simp [risingCurve], rfl⟩
  obtain ⟨hrun, h⟩ := level_access_safe hzero 2900 (show firstZero risingCurve < 3 by decide)
  refine ⟨hrun, fun t o s' ht => ?_⟩
  obtain ⟨hsafe, v, rfl, hv⟩ := h t o s' ht
  have hlevel : batteryLevelPptt 2900 risingCurve = some 4050 := by decide
  exact ⟨hsafe, hv.symm.trans hlevel⟩

end NrfFeather
