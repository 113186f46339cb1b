import NrfFeather.Lib.Views
import NrfFeather.PmicPulldown

/-!
# The deep-sleep sample

`main` of `samples/deep_sleep/src/main.c` turns on the pull-downs of both bucks, sets up the ship
registers and hibernates for a minute; the chip then starts again, and so does `main`. It looks only
at BUCK2's pull-down to see whether both are set, and goes on when it could not set them. From a
chip on which neither is set that is enough: they are set and cleared together, and stay set
through every later boot until the chip loses its registers (`deep_sleep_cycles`).
-/

namespace NrfFeather.DeepSleep

open Effects Transition

def SHIP_BASE : BitVec 8 := 0x0b
def SHIP_OFFSET_CONFIG : BitVec 8 := 0x04
def SHIP_OFFSET_LPCONFIG : BitVec 8 := 0x06
def SHIP_OFFSET_CFGSTROBE : BitVec 8 := 0x01

inductive DeepCall where
  | pmic (c : PmicCall)
  | mfdNpm1300Hibernate (ms : Nat)

@[reducible] def DeepCall.Ans : DeepCall → Type
  | .pmic c => c.Ans
  | .mfdNpm1300Hibernate _ => Int

/-- The board, and for how long it hibernates. -/
structure Chip where
  board : Board
  hibernates : Option Nat

namespace Chip

def allows (w : Chip) : (c : DeepCall) → c.Ans → Prop
  | .pmic c, r => w.board.allows c r
  | .mfdNpm1300Hibernate _, _ => True

def next (w : Chip) : (c : DeepCall) → c.Ans → Chip
  | .pmic c, r => { w with board := w.board.next c r }
  | .mfdNpm1300Hibernate ms, r => if r < (0 : Int) then w else { w with hibernates := some ms }

def env : Env DeepCall.Ans Chip := ⟨allows, next⟩

end Chip

def pmicCalls : Embedding PmicCall.Ans DeepCall.Ans := ⟨.pmic, fun _ => Equiv.refl _⟩

/-- The registers of the PMIC are a part of the chip that its pull-down update acts on alone. -/
theorem boardPart : Part Chip.env Board.env pmicCalls Chip.board fun board w => { w with board } :=
  ⟨fun _ _ _ => Iff.rfl, fun _ _ _ => rfl, fun _ _ => rfl, fun _ _ _ => rfl, fun _ => rfl⟩

/-! ## The sample -/

def mfdNpm1300RegWrite (base offset data : BitVec 8) : Prog DeepCall.Ans Int :=
  .perform (DeepCall.pmic (.mfdNpm1300RegWrite base offset data))

def mfdNpm1300Hibernate (ms : Nat) : Prog DeepCall.Ans Int :=
  .perform (DeepCall.mfdNpm1300Hibernate ms)

def deepSleepMain : Prog DeepCall.Ans Int := do
  deepSleepPulldown.embed pmicCalls
  let ret ← mfdNpm1300RegWrite SHIP_BASE SHIP_OFFSET_CONFIG 3
  if ret < 0 then
    return ret
  let ret ← mfdNpm1300RegWrite SHIP_BASE SHIP_OFFSET_LPCONFIG 0
  if ret < 0 then
    return ret
  let ret ← mfdNpm1300RegWrite SHIP_BASE SHIP_OFFSET_CFGSTROBE 1
  if ret < 0 then
    return ret
  let ret ← mfdNpm1300Hibernate 60000
  if ret < 0 then
    return ret
  return 0

/-- One boot. -/
structure DeepBoot where
  /-- The chip has kept its registers since the boot before. -/
  kept : Bool
  trace : List (Event DeepCall.Ans)
  ret : Int
  after : Chip

/-- Neither pull-down is set, as after a reset of the chip. -/
def Neither (b : Board) : Prop := b.buckctrl0 &&& (0x08 + 0x04) = 0

def Both (b : Board) : Prop := b.buckctrl0 &&& (0x08 + 0x04) = 0x08 + 0x04

/-- The chip starts, with the registers as they were or reset, and `main` runs. -/
def BootStep (w : Chip) (l : DeepBoot) (w' : Chip) : Prop :=
  ∃ b, (if l.kept then b = w.board else Neither b) ∧
    Exec Chip.env ⟨b, none⟩ deepSleepMain l.trace l.ret w' ∧ l.after = w'

/-! ## A boot -/

/-- The write of a register of this block fails. -/
def WriteFails (base : BitVec 8) : Event PmicCall.Ans → Prop
  | ⟨.mfdNpm1300RegWrite base' _ _, r⟩ => base' = base ∧ r < (0 : Int)
  | _ => False

/-- The pull-downs could not be set. -/
def PulldownFails : Event DeepCall.Ans → Prop
  | ⟨.pmic c, r⟩ => WriteFails NPM1300_BUCK_BASE ⟨c, r⟩
  | ⟨.mfdNpm1300Hibernate _, _⟩ => False

/-- A call fails that keeps the chip from hibernating. -/
def ShipFails : Event DeepCall.Ans → Prop
  | ⟨.pmic c, r⟩ => WriteFails SHIP_BASE ⟨c, r⟩
  | ⟨.mfdNpm1300Hibernate _, r⟩ => r < (0 : Int)

/-- The ship registers are set up, and the chip hibernates for a minute. -/
def Hibernates (w : Chip) : Prop :=
  w.board.regs SHIP_BASE SHIP_OFFSET_CONFIG = 3 ∧ w.board.regs SHIP_BASE SHIP_OFFSET_LPCONFIG = 0 ∧
    w.board.regs SHIP_BASE SHIP_OFFSET_CFGSTROBE = 1 ∧ w.hibernates = some 60000

/-- Where the pull-downs are set together or not at all, BUCK2's bit tells of both. -/
theorem both_of_seen : ∀ v : BitVec 8, v &&& (0x08 + 0x04) = 0 ∨ v &&& (0x08 + 0x04) = 0x08 + 0x04 →
    v &&& NPM1300_BUCK2_PULLDOWN_EN ≠ 0 → v &&& (0x08 + 0x04) = 0x08 + 0x04 := by decide

/-- On a chip with both pull-downs set or neither, the first step of `main` sets both, or changes
nothing if its write fails. -/
theorem wp_deepSleepPulldown {b : Board} (hb : Neither b ∨ Both b) :
    wp Board.env deepSleepPulldown (fun t _ b' => (∀ e ∈ t, ¬ WriteFails SHIP_BASE e) ∧
      ((∀ e ∈ t, ¬ WriteFails NPM1300_BUCK_BASE e) → Both b') ∧
      ((¬ ∀ e ∈ t, ¬ WriteFails NPM1300_BUCK_BASE e) → b' = b)) b := by
  have hship : NPM1300_BUCK_BASE ≠ SHIP_BASE := by decide
  rw [deepSleepPulldown_eq]
  refine wp_mono ?_ (guardedUpdate_outcome b _ _)
  intro t _ b' h
  cases h with
  | seen hset =>
    exact ⟨List.forall_mem_singleton.2 id, fun _ => both_of_seen _ hb hset, fun _ => rfl⟩
  | failed hw =>
    refine ⟨by simp [WriteFails, hship], fun h => ?_, fun _ => rfl⟩
    exact absurd ⟨rfl, hw⟩ (h _ (.tail _ (.head _)))
  | written hw =>
    refine ⟨by simp [WriteFails, hship], fun _ => ?_, fun h => ?_⟩
    · rw [Both, Board.buckctrl0_setBuckctrl0, BitVec.and_self]
    · exact absurd (by simp [WriteFails, hw]) h

/-- `main` behind the pull-downs. -/
def enterHibernation : Prog DeepCall.Ans Int := do
  let ret ← mfdNpm1300RegWrite SHIP_BASE SHIP_OFFSET_CONFIG 3
  if ret < 0 then
    return ret
  let ret ← mfdNpm1300RegWrite SHIP_BASE SHIP_OFFSET_LPCONFIG 0
  if ret < 0 then
    return ret
  let ret ← mfdNpm1300RegWrite SHIP_BASE SHIP_OFFSET_CFGSTROBE 1
  if ret < 0 then
    return ret
  let ret ← mfdNpm1300Hibernate 60000
  if ret < 0 then
    return ret
  return 0

/-- `main` updates the pull-downs, whatever comes of it, and then enters hibernation. -/
theorem deepSleepMain_eq :
    deepSleepMain = deepSleepPulldown.embed pmicCalls >>= fun _ => enterHibernation := rfl

/-- What the calls from the ship registers on come to: the chip hibernates exactly when none of them
fails, and the pull-downs are left alone. -/
structure ShipPost (b : Board) (t : List (Event DeepCall.Ans)) (ret : Int) (w' : Chip) : Prop where
  ok : ret = 0 ↔ ∀ e ∈ t, ¬ ShipFails e
  hibernates : ret = 0 → Hibernates w'
  awake : ret ≠ 0 → w'.hibernates = none
  pulldowns : ∀ e ∈ t, ¬ PulldownFails e
  buckctrl0 : w'.board.buckctrl0 = b.buckctrl0

/-- A write of a ship register, with its outcome. -/
def shipWrite (offset data : BitVec 8) (r : Int) : Event DeepCall.Ans :=
  ⟨.pmic (.mfdNpm1300RegWrite SHIP_BASE offset data), r⟩

section
variable {offset data : BitVec 8} {r : Int} {b : Board} {w' : Chip}

/-- A write to a ship register fails by its result. -/
theorem shipFails_shipWrite : ShipFails (shipWrite offset data r) ↔ r < 0 :=
  and_iff_right rfl

/-- It is no failure of the update of the pull-downs. -/
theorem not_pulldownFails_shipWrite : ¬ PulldownFails (shipWrite offset data r) :=
  fun h => absurd h.1 (by decide)

/-- A write to a ship register that succeeds changes that register only. -/
theorem next_shipWrite (hr : ¬ r < 0) :
    Chip.env.next ⟨b, none⟩ (.pmic (.mfdNpm1300RegWrite SHIP_BASE offset data)) r =
      ⟨b.setReg SHIP_BASE offset data, none⟩ :=
  congrArg (Chip.mk · none) (if_neg hr)

/-- The ship registers are none of those of the bucks. -/
theorem buckctrl0_setReg : (b.setReg SHIP_BASE offset data).buckctrl0 = b.buckctrl0 := by
  simp [Board.buckctrl0, Board.setReg, SHIP_BASE, NPM1300_BUCK_BASE]

/-- A write that fails ends the boot with its error, and the chip stays awake. -/
theorem ShipPost.fails (hr : r < 0) : ShipPost b [shipWrite offset data r] r
    (Chip.env.next ⟨b, none⟩ (.pmic (.mfdNpm1300RegWrite SHIP_BASE offset data)) r) := by
  have hne : r ≠ 0 := Int.ne_of_lt hr
  refine ⟨iff_of_false hne ?_, fun h => absurd h hne, fun _ => rfl,
    List.forall_mem_singleton.2 not_pulldownFails_shipWrite, ?_⟩
  · exact fun hall => hall _ (.head _) (shipFails_shipWrite.2 hr)
  · exact congrArg Board.buckctrl0 (if_pos hr : b.next (.mfdNpm1300RegWrite _ _ _) r = b)

/-- A write that succeeds leaves the rest to what comes after it. -/
theorem ShipPost.cons {t : List (Event DeepCall.Ans)} {ret : Int} (hr : ¬ r < 0)
    (h : ShipPost (b.setReg SHIP_BASE offset data) t ret w') :
    ShipPost b (shipWrite offset data r :: t) ret w' := by
  refine ⟨?_, h.hibernates, h.awake,
    List.forall_mem_cons.2 ⟨not_pulldownFails_shipWrite, h.pulldowns⟩,
    h.buckctrl0.trans buckctrl0_setReg⟩
  rw [List.forall_mem_cons, shipFails_shipWrite, h.ok]
  exact (and_iff_right hr).symm

end

/-- A call of hibernate that succeeds puts the chip to sleep for the time it is given. -/
theorem Chip.next_hibernate (w : Chip) (ms : Nat) (r : Int) :
    Chip.env.next w (.mfdNpm1300Hibernate ms) r =
      if r < 0 then w else { w with hibernates := some ms } := rfl

/-- The ship registers are written one after the other, and the chip hibernates, unless a call
fails; then it stays awake. -/
theorem wp_enterHibernation (b : Board) :
    wp Chip.env enterHibernation (ShipPost b) ⟨b, none⟩ := by
  simp only [enterHibernation, mfdNpm1300RegWrite, mfdNpm1300Hibernate, Prog.perform_bind, wp_call]
  intro r₁ _
  split
  · next h₁ => exact .fails h₁
  · next h₁ =>
    rw [next_shipWrite h₁, wp_call]
    intro r₂ _
    split
    · next h₂ => exact .cons h₁ (.fails h₂)
    · next h₂ =>
      rw [next_shipWrite h₂, wp_call]
      intro r₃ _
      split
      · next h₃ => exact .cons h₁ (.cons h₂ (.fails h₃))
      · next h₃ =>
        rw [next_shipWrite h₃, wp_call]
        intro r₄ _
        rw [Chip.next_hibernate]
        have hpulldown : ∀ e ∈ [(⟨.mfdNpm1300Hibernate 60000, r₄⟩ : Event DeepCall.Ans)],
            ¬ PulldownFails e := List.forall_mem_singleton.2 id
        split
        · next h₄ =>
          have hne : r₄ ≠ 0 := Int.ne_of_lt h₄
          refine .cons h₁ (.cons h₂ (.cons h₃ ⟨iff_of_false hne ?_, fun h => absurd h hne,
            fun _ => rfl, hpulldown, rfl⟩))
          exact fun hall => hall _ (.head _) h₄
        · next h₄ =>
          have hregs : Hibernates ⟨((b.setReg SHIP_BASE SHIP_OFFSET_CONFIG 3).setReg SHIP_BASE
              SHIP_OFFSET_LPCONFIG 0).setReg SHIP_BASE SHIP_OFFSET_CFGSTROBE 1, some 60000⟩ := by
            simp [Hibernates, Board.setReg, SHIP_OFFSET_CONFIG, SHIP_OFFSET_LPCONFIG,
              SHIP_OFFSET_CFGSTROBE]
          exact .cons h₁ (.cons h₂ (.cons h₃ ⟨iff_of_true rfl (List.forall_mem_singleton.2 h₄),
            fun _ => hregs, fun h => absurd rfl h, hpulldown, rfl⟩))

/-- What a boot comes to: the chip hibernates exactly when no call fails that has to do with it, and
the pull-downs are set or left alone. -/
structure MainPost (b : Board) (t : List (Event DeepCall.Ans)) (ret : Int) (w' : Chip) : Prop where
  ok : ret = 0 ↔ ∀ e ∈ t, ¬ ShipFails e
  hibernates : ret = 0 → Hibernates w'
  awake : ret ≠ 0 → w'.hibernates = none
  both : (∀ e ∈ t, ¬ PulldownFails e) → Both w'.board
  same : (¬ ∀ e ∈ t, ¬ PulldownFails e) → w'.board.buckctrl0 = b.buckctrl0

/-- What a boot comes to when the pull-downs were set together, or not at all. -/
theorem wp_deepSleepMain {b : Board} (hb : Neither b ∨ Both b) :
    wp Chip.env deepSleepMain (MainPost b) ⟨b, none⟩ := by
  rw [deepSleepMain_eq, wp_bind]
  refine boardPart.view.wp (wp_deepSleepPulldown hb) ?_
  rintro u _ w hrun ⟨hship, hboth, hsame⟩
  have hw : w = ⟨w.board, none⟩ := boardPart.exec_eq hrun
  rw [hw]
  refine wp_mono ?_ (wp_enterHibernation w.board)
  intro t ret w' h
  have hshipAll : (∀ e ∈ u.map pmicCalls.event ++ t, ¬ ShipFails e) ↔ ∀ e ∈ t, ¬ ShipFails e := by
    rw [List.forall_mem_append, List.forall_mem_map]
    exact and_iff_right hship
  have hpullAll : (∀ e ∈ u.map pmicCalls.event ++ t, ¬ PulldownFails e) ↔
      ∀ e ∈ u, ¬ WriteFails NPM1300_BUCK_BASE e := by
    rw [List.forall_mem_append, List.forall_mem_map]
    exact and_iff_left h.pulldowns
  refine ⟨h.ok.trans hshipAll.symm, h.hibernates, h.awake, ?_, ?_⟩
  · intro hall
    rw [Both, h.buckctrl0]
    exact hboth (hpullAll.1 hall)
  · intro hfail
    rw [h.buckctrl0, hsame fun hu => hfail (hpullAll.2 hu)]

/-! ## Runs -/

/-- A boot in which the pull-downs could be set. -/
def Pulls (l : DeepBoot) : Prop := ∀ e ∈ l.trace, ¬ PulldownFails e

/-- There was such a boot since the chip last lost its registers. -/
def Pulled (ls : List DeepBoot) : Prop :=
  ∃ pre l post, ls = pre ++ l :: post ∧ Pulls l ∧ ∀ m ∈ post, m.kept = true

/-- After one more boot the pull-downs are set if it set them, or kept them as they were. -/
theorem pulled_concat {ls : List DeepBoot} {l : DeepBoot} :
    Pulled (ls ++ [l]) ↔ Pulls l ∨ l.kept = true ∧ Pulled ls := by
  constructor
  · rintro ⟨pre, m, post, heq, hm, hpost⟩
    rcases List.eq_nil_or_concat post with rfl | ⟨post, k, rfl⟩
    · obtain ⟨-, hlast⟩ := List.append_inj' heq rfl
      rw [List.singleton_inj] at hlast
      exact .inl (hlast ▸ hm)
    · rw [List.concat_eq_append, ← List.cons_append, ← List.append_assoc] at heq
      obtain ⟨hls, hlast⟩ := List.append_inj' heq rfl
      rw [List.singleton_inj] at hlast
      rw [List.concat_eq_append, List.forall_mem_append, List.forall_mem_singleton] at hpost
      exact .inr ⟨hlast ▸ hpost.2, pre, m, post, hls, hm, hpost.1⟩
  · rintro (hl | ⟨hkept, pre, m, post, rfl, hm, hpost⟩)
    · exact ⟨ls, l, [], rfl, hl, List.forall_mem_nil _⟩
    · refine ⟨pre, m, post ++ [l], by simp, hm, ?_⟩
      exact List.forall_mem_append.2 ⟨hpost, List.forall_mem_singleton.2 hkept⟩

/-- A boot ends in hibernation, or with an error in a call that has to do with it. -/
structure BootOk (l : DeepBoot) : Prop where
  ok : l.ret = 0 ↔ ∀ e ∈ l.trace, ¬ ShipFails e
  hibernates : l.ret = 0 → Hibernates l.after
  awake : l.ret ≠ 0 → l.after.hibernates = none

/-- Both pull-downs are set if one of the boots could set them, and otherwise neither is. -/
def PulledTogether (ls : List DeepBoot) (w : Chip) : Prop :=
  (Pulled ls → Both w.board) ∧ (¬ Pulled ls → Neither w.board)

/-- Over the boots so far the pull-downs were set together or not at all. -/
theorem PulledTogether.neither_or_both {ls : List DeepBoot} {w : Chip}
    (h : PulledTogether ls w) : Neither w.board ∨ Both w.board := by
  by_cases hp : Pulled ls
  · exact .inr (h.1 hp)
  · exact .inl (h.2 hp)

/-- A boot does what is expected of it, and keeps the pull-downs together. -/
theorem boot_step {ls : List DeepBoot} {w w' : Chip} {l : DeepBoot} (hw : PulledTogether ls w)
    (h : BootStep w l w') : BootOk l ∧ PulledTogether (ls ++ [l]) w' := by
  obtain ⟨b, hb, hrun, hafter⟩ := h
  have hpaired : Neither b ∨ Both b := by
    split at hb
    · exact hb ▸ hw.neither_or_both
    · exact .inl hb
  have hpost := hrun.of_wp (wp_deepSleepMain hpaired)
  refine ⟨⟨hpost.ok, hafter ▸ hpost.hibernates, hafter ▸ hpost.awake⟩, ?_⟩
  rw [PulledTogether, pulled_concat]
  by_cases hl : Pulls l
  · exact ⟨fun _ => hpost.both hl, fun hn => absurd (.inl hl) hn⟩
  · rw [or_iff_right hl, Both, Neither, hpost.same hl]
    split at hb
    · next hkept =>
      rw [and_iff_right hkept, hb]
      exact hw
    · next hkept => exact ⟨fun h => absurd h.1 hkept, fun _ => hb⟩

/-- In every run of boots, each of which finds the registers as they were left or reset, and
whatever fails: a boot hibernates, with the ship registers set up, unless a call fails that has to
do with that; and both pull-downs are set from the first boot on that could set them until the
registers are lost. -/
theorem deep_sleep_cycles {w w' : Chip} {ls : List DeepBoot} (h : Run BootStep w ls w')
    (hw : Neither w.board) : (∀ l ∈ ls, BootOk l) ∧ PulledTogether ls w' := by
  have hstart : PulledTogether [] w := by
    refine ⟨?_, fun _ => hw⟩
    rintro ⟨pre, l, post, heq, -⟩
    exact absurd heq (by simp)
  refine h.history (I := fun ls w => (∀ l ∈ ls, BootOk l) ∧ PulledTogether ls w) ?_
    ⟨List.forall_mem_nil _, hstart⟩
  rintro ls w l w' ⟨hls, hw⟩ hl
  obtain ⟨hok, hw'⟩ := boot_step hw hl
  exact ⟨List.forall_mem_append.2 ⟨hls, List.forall_mem_singleton.2 hok⟩, hw'⟩

def resetBoard : Board where
  refcnt := 0
  buck2On := false
  regs _ _ := 0
  uartActive := true

/-- The read of the pull-downs, and their write. -/
def readPulldowns (r : Int × BitVec 8) : Event DeepCall.Ans :=
  ⟨.pmic (.mfdNpm1300RegRead NPM1300_BUCK_BASE NPM1300_BUCK_BUCKCTRL0), r⟩

def writePulldowns (r : Int) : Event DeepCall.Ans :=
  ⟨.pmic (.mfdNpm1300RegWrite NPM1300_BUCK_BASE NPM1300_BUCK_BUCKCTRL0 (0x08 + 0x04)), r⟩

/-- The first boot can neither read nor set the pull-downs, but hibernates; the second one sets
them, and stays awake. -/
theorem deep_sleep_cycles_second : ∃ l₁ l₂ w', Run BootStep ⟨resetBoard, none⟩ [l₁, l₂] w' ∧
    (BootOk l₁ ∧ l₁.ret = 0) ∧ (BootOk l₂ ∧ l₂.ret = - EIO) ∧ Both w'.board := by
  let t₁ : List (Event DeepCall.Ans) := [readPulldowns (- EIO, 0), writePulldowns (- EIO),
    shipWrite SHIP_OFFSET_CONFIG 3 0, shipWrite SHIP_OFFSET_LPCONFIG 0 0,
    shipWrite SHIP_OFFSET_CFGSTROBE 1 0, ⟨.mfdNpm1300Hibernate 60000, (0 : Int)⟩]
  let t₂ : List (Event DeepCall.Ans) := [readPulldowns (0, 0), writePulldowns 0,
    shipWrite SHIP_OFFSET_CONFIG 3 (- EIO)]
  let w₁ : Chip := Chip.env.after ⟨resetBoard, none⟩ t₁
  let w₂ : Chip := Chip.env.after ⟨w₁.board, none⟩ t₂
  have h₁ : BootStep ⟨resetBoard, none⟩ ⟨true, t₁, 0, w₁⟩ w₁ :=
    ⟨resetBoard, rfl, .call nofun (.call trivial (.call trivial (.call trivial (.call trivial
      (.call trivial .ret))))), rfl⟩
  have h₂ : BootStep w₁ ⟨true, t₂, - EIO, w₂⟩ w₂ :=
    ⟨w₁.board, rfl, .call (fun _ => rfl) (.call trivial (.call trivial .ret)), rfl⟩
  have hrun : Run BootStep ⟨resetBoard, none⟩ [_, _] w₂ := .cons h₁ (.cons h₂ (.nil _))
  obtain ⟨hok, hboth, -⟩ := deep_sleep_cycles hrun rfl
  obtain ⟨hok₁, hok₂⟩ := List.forall_mem_cons.1 hok
  have hpulls : Pulls ⟨true, t₂, - EIO, w₂⟩ := by
    refine List.forall_mem_cons.2 ⟨id, List.forall_mem_cons.2 ⟨fun h => absurd h.2 (by decide), ?_⟩⟩
    exact List.forall_mem_singleton.2 not_pulldownFails_shipWrite
  exact ⟨_, _, w₂, hrun, ⟨hok₁, rfl⟩, ⟨List.forall_mem_singleton.1 hok₂, rfl⟩,
    hboth ⟨[_], _, [], rfl, hpulls, List.forall_mem_nil _⟩⟩

end NrfFeather.DeepSleep
