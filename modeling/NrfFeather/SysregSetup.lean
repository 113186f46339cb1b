import Mathlib.Data.BitVec
import NrfFeather.Lib.Calls
import NrfFeather.Zephyr

/-!
# The VBUS limit at start-up

`sysreg_setup` of `boards/circuitdojo/feather_nrf9161/startup.c` lowers the input current limit of
the nPM1300 at every boot. The chip takes a new limit in two steps: it is requested in
`VBUSINILIM0`, and it comes into force when `TASKUPDATEILIMSW` is written; both survive a reset of
the processor. The function returns early where the right limit is requested already, and does not
ask whether it is in force: a boot that fails between the two steps makes all later boots take the
early return.
-/

namespace NrfFeather

open Effects Transition

/-! ## The chip -/

def SYSREG_VBUSIN_BASE : BitVec 8 := 0x02
def SYSREG_TASKUPDATEILIMSW : BitVec 8 := 0x00
def SYSREG_VBUSINILIM0 : BitVec 8 := 0x01

inductive SysregCall where
  /-- `mfd_npm1300_reg_read_burst` of one byte. -/
  | mfdNpm1300RegReadBurst (base offset : BitVec 8)
  | mfdNpm1300RegWrite (base offset data : BitVec 8)
  | kSleep (sec : Nat)
  deriving DecidableEq

/-- The code a call returns; a read also delivers the byte. -/
@[reducible] def SysregCall.Ans : SysregCall → Type
  | .mfdNpm1300RegReadBurst _ _ => Int × BitVec 8
  | .mfdNpm1300RegWrite _ _ _ => Int
  | .kSleep _ => Unit

/-- The limit of the VBUS input, as the codes of `VBUSINILIM0`. -/
structure Vbusin where
  /-- What `VBUSINILIM0` holds. -/
  requested : BitVec 8
  inForce : BitVec 8
  deriving DecidableEq

namespace Vbusin

/-- The chip after a call; a failed one changes nothing. -/
def next (v : Vbusin) : (c : SysregCall) → c.Ans → Vbusin
  | .mfdNpm1300RegWrite base offset data, r =>
    if r < 0 ∨ base ≠ SYSREG_VBUSIN_BASE then v
    else if offset = SYSREG_VBUSINILIM0 then { v with requested := data }
    else if offset = SYSREG_TASKUPDATEILIMSW then { v with inForce := v.requested }
    else v
  | _, _ => v

/-- Any call may fail; a read of `VBUSINILIM0` that succeeds delivers what it holds. -/
def allows (v : Vbusin) : (c : SysregCall) → c.Ans → Prop
  | .mfdNpm1300RegReadBurst base offset, r =>
    base = SYSREG_VBUSIN_BASE → offset = SYSREG_VBUSINILIM0 → 0 ≤ r.1 → r.2 = v.requested
  | _, _ => True

def env : Env SysregCall.Ans Vbusin := ⟨allows, next⟩

/-- The requested limit is the one in force. -/
def Settled (v : Vbusin) : Prop := v.inForce = v.requested

instance (v : Vbusin) : Decidable v.Settled := inferInstanceAs (Decidable (_ = _))

end Vbusin

/-! ## The set-up -/

def mfdNpm1300RegReadBurst (base offset : BitVec 8) : Prog SysregCall.Ans (Int × BitVec 8) :=
  .perform (SysregCall.mfdNpm1300RegReadBurst base offset)

def mfdNpm1300RegWrite (base offset data : BitVec 8) : Prog SysregCall.Ans Int :=
  .perform (SysregCall.mfdNpm1300RegWrite base offset data)

/-- `sysreg_setup`; `pmic` says whether the pointer to the device is not `NULL`. -/
def sysregSetup (pmic : Bool) : Prog SysregCall.Ans Int := do
  if !pmic then
    return -ENODEV
  let (ret, data) ← mfdNpm1300RegReadBurst SYSREG_VBUSIN_BASE SYSREG_VBUSINILIM0
  if ret < 0 then
    return ret
  else if data = 0 then
    return 0
  let ret ← mfdNpm1300RegWrite SYSREG_VBUSIN_BASE SYSREG_VBUSINILIM0 0
  if ret < 0 then
    return ret
  let ret ← mfdNpm1300RegWrite SYSREG_VBUSIN_BASE SYSREG_TASKUPDATEILIMSW 0x01
  if ret < 0 then
    return ret
  Prog.perform (SysregCall.kSleep 2)
  return 0

/-! ## What a call does -/

/-- The requested limit was written. -/
def LimitWritten : Event SysregCall.Ans → Prop
  | ⟨.mfdNpm1300RegWrite base offset _, r⟩ =>
    base = SYSREG_VBUSIN_BASE ∧ offset = SYSREG_VBUSINILIM0 ∧ 0 ≤ r
  | _ => False

/-- The requested limit was brought into force. -/
def Strobed : Event SysregCall.Ans → Prop
  | ⟨.mfdNpm1300RegWrite base offset _, r⟩ =>
    base = SYSREG_VBUSIN_BASE ∧ offset = SYSREG_TASKUPDATEILIMSW ∧ 0 ≤ r
  | _ => False

/-- The attempt to bring the requested limit into force failed. -/
def StrobeFailed : Event SysregCall.Ans → Prop
  | ⟨.mfdNpm1300RegWrite base offset _, r⟩ =>
    base = SYSREG_VBUSIN_BASE ∧ offset = SYSREG_TASKUPDATEILIMSW ∧ r < 0
  | _ => False

/-- The requested limit was read. -/
def LimitRead : Event SysregCall.Ans → Prop
  | ⟨.mfdNpm1300RegReadBurst base offset, r⟩ =>
    base = SYSREG_VBUSIN_BASE ∧ offset = SYSREG_VBUSINILIM0 ∧ 0 ≤ r.1
  | _ => False

/-- Every write of the limit in the trace is followed by a successful strobe. -/
def AllStrobed : List (Event SysregCall.Ans) → Prop
  | [] => True
  | e :: t => (LimitWritten e → ∃ e' ∈ t, Strobed e') ∧ AllStrobed t

/-- The three calls of `sysreg_setup` to the chip. -/
def readLimit (r : Int × BitVec 8) : Event SysregCall.Ans :=
  ⟨.mfdNpm1300RegReadBurst SYSREG_VBUSIN_BASE SYSREG_VBUSINILIM0, r⟩

def writeLimit (r : Int) : Event SysregCall.Ans :=
  ⟨.mfdNpm1300RegWrite SYSREG_VBUSIN_BASE SYSREG_VBUSINILIM0 0, r⟩

def strobe (r : Int) : Event SysregCall.Ans :=
  ⟨.mfdNpm1300RegWrite SYSREG_VBUSIN_BASE SYSREG_TASKUPDATEILIMSW 1, r⟩

section
variable {r : Int}

/-- A read delivers the limit if it succeeds. -/
@[simp] theorem limitRead_readLimit {a : Int × BitVec 8} : LimitRead (readLimit a) ↔ 0 ≤ a.1 :=
  ⟨fun h => h.2.2, fun h => ⟨rfl, rfl, h⟩⟩

@[simp] theorem limitRead_writeLimit : ¬ LimitRead (writeLimit r) := id

@[simp] theorem limitRead_strobe : ¬ LimitRead (strobe r) := id

@[simp] theorem limitWritten_readLimit {a : Int × BitVec 8} : ¬ LimitWritten (readLimit a) := id

/-- A write of the limit counts if it succeeds. -/
@[simp] theorem limitWritten_writeLimit : LimitWritten (writeLimit r) ↔ 0 ≤ r :=
  ⟨fun h => h.2.2, fun h => ⟨rfl, rfl, h⟩⟩

/-- A strobe is no write of the limit, being to another register. -/
@[simp] theorem limitWritten_strobe : ¬ LimitWritten (strobe r) :=
  fun h => absurd h.2.1 (by decide)

@[simp] theorem strobed_readLimit {a : Int × BitVec 8} : ¬ Strobed (readLimit a) := id

/-- A write of the limit is no strobe. -/
@[simp] theorem strobed_writeLimit : ¬ Strobed (writeLimit r) :=
  fun h => absurd h.2.1 (by decide)

/-- A strobe counts if it succeeds. -/
@[simp] theorem strobed_strobe : Strobed (strobe r) ↔ 0 ≤ r :=
  ⟨fun h => h.2.2, fun h => ⟨rfl, rfl, h⟩⟩

@[simp] theorem strobeFailed_readLimit {a : Int × BitVec 8} : ¬ StrobeFailed (readLimit a) := id

/-- A write of the limit is no strobe that fails. -/
@[simp] theorem strobeFailed_writeLimit : ¬ StrobeFailed (writeLimit r) :=
  fun h => absurd h.2.1 (by decide)

/-- A strobe fails by its result. -/
@[simp] theorem strobeFailed_strobe : StrobeFailed (strobe r) ↔ r < 0 :=
  ⟨fun h => h.2.2, fun h => ⟨rfl, rfl, h⟩⟩

@[simp] theorem limitWritten_sleep {sec : Nat} : ¬ LimitWritten ⟨.kSleep sec, ()⟩ := id

@[simp] theorem strobeFailed_sleep {sec : Nat} : ¬ StrobeFailed ⟨.kSleep sec, ()⟩ := id

end

/-- The ways a call of `sysreg_setup` can go. -/
inductive SysregOutcome (v : Vbusin) : List (Event SysregCall.Ans) → Int → Vbusin → Prop where
  | noDevice : SysregOutcome v [] (-ENODEV) v
  | readFailed {r : Int} {data : BitVec 8} : r < 0 → SysregOutcome v [readLimit (r, data)] r v
  | early {r : Int} : 0 ≤ r → v.requested = 0 → SysregOutcome v [readLimit (r, 0)] 0 v
  | writeFailed {r w : Int} : 0 ≤ r → v.requested ≠ 0 → w < 0 →
      SysregOutcome v [readLimit (r, v.requested), writeLimit w] w v
  | halfway {r w u : Int} : 0 ≤ r → v.requested ≠ 0 → 0 ≤ w → u < 0 →
      SysregOutcome v [readLimit (r, v.requested), writeLimit w, strobe u] u ⟨0, v.inForce⟩
  | done {r w u : Int} : 0 ≤ r → v.requested ≠ 0 → 0 ≤ w → 0 ≤ u →
      SysregOutcome v [readLimit (r, v.requested), writeLimit w, strobe u, ⟨.kSleep 2, ()⟩] 0
        ⟨0, 0⟩

/-- Reading the limit changes nothing. -/
@[simp] theorem Vbusin.next_readLimit (v : Vbusin) (base offset : BitVec 8)
    (a : Int × BitVec 8) : Vbusin.env.next v (.mfdNpm1300RegReadBurst base offset) a = v := rfl

/-- A write of the limit that succeeds requests it. -/
theorem Vbusin.next_writeLimit (v : Vbusin) (data : BitVec 8) (r : Int) :
    Vbusin.env.next v (.mfdNpm1300RegWrite SYSREG_VBUSIN_BASE SYSREG_VBUSINILIM0 data) r =
      if r < 0 then v else ⟨data, v.inForce⟩ := by
  by_cases h : r < 0 <;> simp [Vbusin.env, Vbusin.next, h]

/-- A strobe that succeeds brings the requested limit into force. -/
theorem Vbusin.next_strobe (v : Vbusin) (data : BitVec 8) (r : Int) :
    Vbusin.env.next v (.mfdNpm1300RegWrite SYSREG_VBUSIN_BASE SYSREG_TASKUPDATEILIMSW data) r =
      if r < 0 then v else ⟨v.requested, v.requested⟩ := by
  have hne : SYSREG_TASKUPDATEILIMSW ≠ SYSREG_VBUSINILIM0 := by decide
  by_cases h : r < 0 <;> simp [Vbusin.env, Vbusin.next, h, hne]

/-- Each run of `sysreg_setup` ends in one of the ways of `SysregOutcome`. -/
theorem wp_sysregSetup (pmic : Bool) (v : Vbusin) :
    wp Vbusin.env (sysregSetup pmic) (SysregOutcome v) v := by
  cases pmic with
  | false => exact .noDevice
  | true =>
    simp only [sysregSetup, mfdNpm1300RegReadBurst, mfdNpm1300RegWrite, Prog.perform_bind,
      Bool.not_true, Bool.false_eq_true, if_false, wp_call]
    rintro ⟨r, data⟩ hread
    by_cases hr : r < 0
    · simp only [hr, if_true, Prog.pure_eq, wp_ret]
      exact .readFailed hr
    · have hr0 : 0 ≤ r := Int.not_lt.1 hr
      have hdata : data = v.requested := hread rfl rfl hr0
      subst hdata
      by_cases hreq : v.requested = 0
      · simp only [hr, hreq, if_true, if_false, Prog.pure_eq, wp_ret]
        exact .early hr0 hreq
      · simp only [hr, hreq, if_false, wp_call]
        intro w _
        rw [Vbusin.next_readLimit, Vbusin.next_writeLimit]
        by_cases hw : w < 0
        · simp only [hw, if_true, Prog.pure_eq, wp_ret]
          exact .writeFailed hr0 hreq hw
        · simp only [hw, if_false, wp_call]
          intro u _
          rw [Vbusin.next_strobe]
          by_cases hu : u < 0
          · simp only [hu, if_true, Prog.pure_eq, wp_ret]
            exact .halfway hr0 hreq (Int.not_lt.1 hw) hu
          · simp only [hu, if_false, Prog.pure_eq, wp_call]
            intro _ _
            exact .done hr0 hreq (Int.not_lt.1 hw) (Int.not_lt.1 hu)

/-! ## Runs of boots -/

/-- One call of `sysreg_setup`, at some boot. -/
abbrev SysregBoot : Type := Called SysregCall.Ans Vbusin Int

def SysregBoot.StrobeFails (b : SysregBoot) : Prop := ∃ e ∈ b.trace, StrobeFailed e

def SysregBoot.Reads (b : SysregBoot) : Prop := ∃ e ∈ b.trace, LimitRead e

/-- Whenever `sysreg_setup` returns 0, the limit in force is the one that the code 0 stands for:
every write of the limit so far is followed by a successful strobe. -/
def LimitInForce (bs : List SysregBoot) : Prop :=
  ∀ pre b post, bs = pre ++ b :: post → b.ret = 0 →
    b.after.inForce = 0 ∧ AllStrobed ((pre ++ [b]).flatMap Called.trace)

/-- Calls that strobe nothing strobe no write before them either. -/
theorem allStrobed_append {t u : List (Event SysregCall.Ans)} (hu : ∀ e ∈ u, ¬ Strobed e) :
    AllStrobed (t ++ u) ↔ AllStrobed t ∧ AllStrobed u := by
  induction t with
  | nil => simp [AllStrobed]
  | cons e t ih =>
    have hex : (∃ e' ∈ t ++ u, Strobed e') ↔ ∃ e' ∈ t, Strobed e' := by
      constructor
      · rintro ⟨e', he', hs⟩
        rcases List.mem_append.1 he' with he' | he'
        · exact ⟨e', he', hs⟩
        · exact absurd hs (hu e' he')
      · rintro ⟨e', he', hs⟩
        exact ⟨e', List.mem_append_left u he', hs⟩
    rw [List.cons_append, AllStrobed, AllStrobed, hex, ih, and_assoc]

/-- A strobe makes good for all that was written before the calls it is among. -/
theorem allStrobed_append_strobed {t u : List (Event SysregCall.Ans)}
    (hu : ∃ e ∈ u, Strobed e) : AllStrobed (t ++ u) ↔ AllStrobed u := by
  induction t with
  | nil => rfl
  | cons e t ih =>
    obtain ⟨e', he', hs⟩ := hu
    rw [List.cons_append, AllStrobed, ih]
    exact and_iff_right fun _ => ⟨e', List.mem_append_right t he', hs⟩

/-- The chip takes every limit that was requested, or it waits for a strobe that never comes. -/
structure StrobeInv (t : List (Event SysregCall.Ans)) (v : Vbusin) : Prop where
  settled : AllStrobed t ↔ v.Settled
  waiting : ¬ v.Settled → v.requested = 0

/-- A boot keeps what ties the limit in force to the strobes that were made. -/
theorem StrobeInv.step {t u : List (Event SysregCall.Ans)} {v v' : Vbusin} {ret : Int}
    (hinv : StrobeInv t v) (h : SysregOutcome v u ret v') : StrobeInv (t ++ u) v' := by
  cases h with
  | noDevice => simpa using hinv
  | readFailed hr | early hr hreq =>
    refine ⟨?_, hinv.waiting⟩
    rw [allStrobed_append (by simp), hinv.settled]
    simp [AllStrobed]
  | writeFailed hr hreq hw =>
    refine ⟨?_, hinv.waiting⟩
    rw [allStrobed_append (by simp), hinv.settled]
    simp [AllStrobed, Int.not_le.2 hw]
  | halfway hr hreq hw hu =>
    have hsettled : v.Settled := Decidable.byContradiction fun h => hreq (hinv.waiting h)
    refine ⟨iff_of_false ?_ ?_, fun _ => rfl⟩
    · rw [allStrobed_append (by simp [Int.not_le.2 hu])]
      simp [AllStrobed, hw, Int.not_le.2 hu]
    · rw [Vbusin.Settled] at hsettled ⊢
      rw [hsettled]
      exact hreq
  | done hr hreq hw hu =>
    refine ⟨iff_of_true ?_ rfl, fun h => absurd rfl h⟩
    rw [allStrobed_append_strobed ⟨strobe _, by simp, strobed_strobe.2 hu⟩]
    refine ⟨by simp, fun _ => ⟨strobe _, by simp, strobed_strobe.2 hu⟩, by simp, by simp, trivial⟩

/-- The right limit is requested, another one is in force. -/
def Vbusin.Stuck (v : Vbusin) : Prop := v.requested = 0 ∧ v.inForce ≠ 0

/-- A call that finds the requested limit in force leaves it in force and is honest, or gets stuck
halfway. -/
theorem SysregOutcome.of_settled {t : List (Event SysregCall.Ans)} {v v' : Vbusin} {ret : Int}
    (h : SysregOutcome v t ret v') (hv : v.Settled) :
    (v'.Settled ∧ (ret = 0 → v'.inForce = 0) ∧ ¬ ∃ e ∈ t, StrobeFailed e) ∨
      (v'.Stuck ∧ ret ≠ 0 ∧ ∃ e ∈ t, StrobeFailed e) := by
  cases h with
  | noDevice => exact .inl ⟨hv, fun h => absurd h (by decide), by simp⟩
  | readFailed hr => exact .inl ⟨hv, fun h => by omega, by simp⟩
  | early hr hreq => exact .inl ⟨hv, fun _ => by rw [hv, hreq], by simp⟩
  | writeFailed hr hreq hw => exact .inl ⟨hv, fun h => by omega, by simp⟩
  | halfway hr hreq hw hu =>
    have hforce : v.inForce ≠ 0 := by
      rw [hv]
      exact hreq
    exact .inr ⟨⟨rfl, hforce⟩, by omega, by simp [hu]⟩
  | done hr hreq hw hu =>
    exact .inl ⟨rfl, fun _ => rfl, by simp [hu]⟩

/-- A call that is stuck changes nothing, and returns 0 when it can read the limit. -/
theorem SysregOutcome.of_stuck {t : List (Event SysregCall.Ans)} {v v' : Vbusin} {ret : Int}
    (h : SysregOutcome v t ret v') (hv : v.Stuck) :
    v' = v ∧ (ret = 0 ↔ ∃ e ∈ t, LimitRead e) ∧ ¬ ∃ e ∈ t, StrobeFailed e := by
  cases h with
  | noDevice => exact ⟨rfl, by simp [ENODEV], by simp⟩
  | readFailed hr =>
    refine ⟨rfl, iff_of_false (by omega) ?_, by simp⟩
    simp [Int.not_le.2 hr]
  | early hr hreq => exact ⟨rfl, by simp [hr], by simp⟩
  | writeFailed hr hreq | halfway hr hreq | done hr hreq => exact absurd hv.1 hreq

section
variable {pmic : Bool} {v v' : Vbusin} {bs : List SysregBoot}

/-- From a limit that was requested but is not in force, no boot strobes, and one that reads the
limit returns 0 in spite of that. -/
theorem SysregBoot.stuck (h : Run (CallStep Vbusin.env (sysregSetup pmic)) v bs v')
    (hv : v.Stuck) :
    ∀ b ∈ bs, ((b.ret = 0 → b.after.inForce = 0) ↔ ¬ b.Reads) ∧ ¬ b.StrobeFails := by
  have hstep : ∀ u (b : SysregBoot) u', u.Stuck → CallStep Vbusin.env (sysregSetup pmic) u b u' →
      u' = u ∧ (b.ret = 0 ↔ b.Reads) ∧ ¬ b.StrobeFails :=
    fun u b u' hu hb => (hb.post (wp_sysregSetup pmic)).of_stuck hu
  refine h.forall_mem_of (I := Vbusin.Stuck) (?_) (?_) hv
  · intro u b u' hu hb
    rw [(hstep u b u' hu hb).1]
    exact hu
  · intro u b u' hu hb
    obtain ⟨rfl, hret, hstrobe⟩ := hstep u b u' hu hb
    obtain ⟨-, rfl, -⟩ := hb
    refine ⟨?_, hstrobe⟩
    rw [hret]
    exact ⟨fun h hr => hu.2 (h hr), fun h hr => absurd hr h⟩

/-- The boots that return 0 have the limit in force exactly when no boot after one that got stuck
can read the requested limit. -/
theorem inForce_iff (h : Run (CallStep Vbusin.env (sysregSetup pmic)) v bs v') (hv : v.Settled) :
    (∀ b ∈ bs, b.ret = 0 → b.after.inForce = 0) ↔
      bs.Pairwise fun b b' => b.StrobeFails → ¬ b'.Reads := by
  induction h with
  | nil => simp
  | cons hl hrest ih =>
    rw [List.forall_mem_cons, List.pairwise_cons]
    rcases (hl.post (wp_sysregSetup pmic)).of_settled hv with ⟨ht, hb, hok⟩ | ⟨ht, hret, hfail⟩
    · obtain ⟨-, rfl, -⟩ := hl
      exact and_congr (iff_of_true hb fun _ _ h => absurd h hok) (ih ht)
    · have hstuck := SysregBoot.stuck hrest ht
      have hrestPairwise := List.pairwise_of_forall_mem_list
        (fun b hb b' _ => show b.StrobeFails → ¬ b'.Reads from fun h => absurd h (hstuck b hb).2)
      refine (and_iff_right fun h => absurd h hret).trans
        (Iff.trans ?_ (and_iff_left hrestPairwise).symm)
      exact forall₂_congr fun b hb => (hstuck b hb).1.trans ⟨fun h _ => h, fun h => h hfail⟩

/-- Every run of boots from a settled chip keeps the limit in force tied to the strobes. -/
theorem strobeInv_run (h : Run (CallStep Vbusin.env (sysregSetup pmic)) v bs v')
    (hv : v.Settled) : StrobeInv (bs.flatMap Called.trace) v' := by
  refine h.history (I := fun bs v => StrobeInv (bs.flatMap Called.trace) v) ?_
    ⟨iff_of_true trivial hv, fun h => absurd hv h⟩
  intro bs u b u' hinv hb
  rw [List.flatMap_append, List.flatMap_singleton]
  exact hinv.step (hb.post (wp_sysregSetup pmic))

/-- A call that returns 0 has the right limit requested. -/
theorem SysregOutcome.requested {t : List (Event SysregCall.Ans)} {ret : Int}
    (h : SysregOutcome v t ret v') (hret : ret = 0) : v'.requested = 0 := by
  cases h with
  | noDevice => exact absurd hret (by decide)
  | readFailed hr => omega
  | early hr hreq => exact hreq
  | writeFailed hr hreq hw => omega
  | halfway | done => rfl

/-- In a run of any number of boots, from a limit that is in force, `sysreg_setup` returns 0 only
with the right limit in force exactly when no boot whose strobe failed is followed, however much
later, by one that can read the requested limit. -/
theorem limit_in_force_iff (h : Run (CallStep Vbusin.env (sysregSetup pmic)) v bs v')
    (hv : v.inForce = v.requested) :
    LimitInForce bs ↔ bs.Pairwise fun b b' => b.StrobeFails → ¬ b'.Reads := by
  rw [← inForce_iff h hv]
  constructor
  · intro hforce b hb hret
    obtain ⟨pre, post, rfl⟩ := List.append_of_mem hb
    exact (hforce pre b post rfl hret).1
  · rintro hforce pre b post rfl hret
    have hzero := hforce b (by simp) hret
    refine ⟨hzero, ?_⟩
    obtain ⟨u, hpre, hrest⟩ := h.append_inv
    cases hrest with
    | cons hl _ =>
      have hrun := hpre.append (.cons hl (.nil _))
      rw [(strobeInv_run hrun hv).settled]
      have hreq := (hl.post (wp_sysregSetup pmic)).requested hret
      obtain ⟨-, rfl, -⟩ := hl
      rw [Vbusin.Settled, hzero, hreq]

end

/-- The limit of 1000 mA, requested and in force. -/
def Vbusin.limit1000 : Vbusin := ⟨0x0a, 0x0a⟩

/-- A boot that requests the limit, and whose strobe gets the answer `u`. -/
def requestingBoot (u : Int) : SysregBoot where
  before := Vbusin.limit1000
  trace := [readLimit (0, 0x0a), writeLimit 0, strobe u] ++
    if u < 0 then [] else [⟨.kSleep 2, ()⟩]
  ret := if u < 0 then u else 0
  after := if u < 0 then ⟨0, 0x0a⟩ else ⟨0, 0⟩

/-- A boot that finds the right limit requested. -/
def returningBoot (inForce : BitVec 8) : SysregBoot where
  before := ⟨0, inForce⟩
  trace := [readLimit (0, 0)]
  ret := 0
  after := ⟨0, inForce⟩

/-- A boot that requests the limit and strobes it. -/
theorem requestingBoot_done :
    CallStep Vbusin.env (sysregSetup true) Vbusin.limit1000 (requestingBoot 0) ⟨0, 0⟩ :=
  ⟨rfl, rfl, .call (fun _ _ _ => rfl) (.call trivial (.call trivial (.call trivial .ret)))⟩

/-- A boot that requests the limit, and fails to strobe it. -/
theorem requestingBoot_halfway :
    CallStep Vbusin.env (sysregSetup true) Vbusin.limit1000 (requestingBoot (- EIO)) ⟨0, 0x0a⟩ :=
  ⟨rfl, rfl, .call (fun _ _ _ => rfl) (.call trivial (.call trivial .ret))⟩

/-- A boot that finds the limit requested. -/
theorem returningBoot_step (inForce : BitVec 8) :
    CallStep Vbusin.env (sysregSetup true) ⟨0, inForce⟩ (returningBoot inForce) ⟨0, inForce⟩ :=
  ⟨rfl, rfl, .call (fun _ _ _ => rfl) .ret⟩

/-- The limit is in force after a boot that succeeds, and stays so. -/
theorem limit_in_force_two_boots :
    Run (CallStep Vbusin.env (sysregSetup true)) Vbusin.limit1000
        [requestingBoot 0, returningBoot 0] ⟨0, 0⟩ ∧
      LimitInForce [requestingBoot 0, returningBoot 0] := by
  have h : Run (CallStep Vbusin.env (sysregSetup true)) Vbusin.limit1000
      [requestingBoot 0, returningBoot 0] ⟨0, 0⟩ :=
    .cons requestingBoot_done (.cons (returningBoot_step 0) (.nil _))
  have hok : ¬ SysregBoot.StrobeFails (requestingBoot 0) := by
    simp [SysregBoot.StrobeFails, requestingBoot]
  refine ⟨h, (limit_in_force_iff h rfl).2 ?_⟩
  simp [hok]

/-- The strobe of the first boot fails; the second boot returns 0, with 1000 mA still in force. -/
theorem stuck_limit_returns_zero :
    Run (CallStep Vbusin.env (sysregSetup true)) Vbusin.limit1000
        [requestingBoot (- EIO), returningBoot 0x0a] ⟨0, 0x0a⟩ ∧
      (returningBoot 0x0a).ret = 0 ∧ (returningBoot 0x0a).after.inForce = 0x0a ∧
      ¬ LimitInForce [requestingBoot (- EIO), returningBoot 0x0a] := by
  refine ⟨.cons requestingBoot_halfway (.cons (returningBoot_step 0x0a) (.nil _)), rfl, rfl,
    fun h => ?_⟩
  have hforce := (h [requestingBoot (- EIO)] (returningBoot 0x0a) [] rfl rfl).1
  exact absurd hforce (by decide)

end NrfFeather
