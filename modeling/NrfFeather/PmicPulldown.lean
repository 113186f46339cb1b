import NrfFeather.UsbDetect.Main

/-!
# Pull-down updates

Three samples turn on the pull-down of a buck that is off, a bit of `BUCKCTRL0`: `setup_pmic` of
`samples/active_sleep/src/main.c`, the first step of `main` of `samples/deep_sleep/src/main.c`, and
`buck2_set_mode` of the USB-detect sample. The last updates the bit under a mask. The other two
write the whole byte, unless they have read BUCK2's bit as set, so they clear what else is set in
the register, and the second leaves BUCK1's bit as it is where BUCK2's is set already
(`pulldown_updates_clobber`). `pulldown_updates_iff` says when all three do what is expected of
them.
-/

namespace NrfFeather

open Effects

/-! ## The updates -/

def regulatorIsEnabled : Prog PmicCall.Ans Bool := .perform PmicCall.regulatorIsEnabled

def Board.mfdNpm1300RegRead (base offset : BitVec 8) : Prog PmicCall.Ans (Int × BitVec 8) :=
  .perform (PmicCall.mfdNpm1300RegRead base offset)

def Board.mfdNpm1300RegWrite (base offset data : BitVec 8) : Prog PmicCall.Ans Int :=
  .perform (PmicCall.mfdNpm1300RegWrite base offset data)

/-- `setup_pmic`; `pmic` says whether the pointer to the device is not `NULL`. -/
def setupPmic (pmic : Bool) : Prog PmicCall.Ans Int := do
  if !pmic then
    return -ENODEV
  if ← regulatorIsEnabled then
    let err ← regulatorDisable
    if err < 0 then
      return err
  let (err, data) ← Board.mfdNpm1300RegRead NPM1300_BUCK_BASE NPM1300_BUCK_BUCKCTRL0
  -- a failed read is only logged, and leaves `reg` at its initial value
  let reg := if err < 0 then 0 else data
  if reg &&& NPM1300_BUCK2_PULLDOWN_EN = 0 then
    let _ ← Board.mfdNpm1300RegWrite NPM1300_BUCK_BASE NPM1300_BUCK_BUCKCTRL0
      NPM1300_BUCK2_PULLDOWN_EN
  return 0

/-- The pull-down step of `main`, up to the writes of the ship-mode registers. -/
def deepSleepPulldown : Prog PmicCall.Ans Unit := do
  let (ret, data) ← Board.mfdNpm1300RegRead NPM1300_BUCK_BASE NPM1300_BUCK_BUCKCTRL0
  let reg := if ret < 0 then 0 else data
  if reg &&& 0x08 = 0 then
    let _ ← Board.mfdNpm1300RegWrite NPM1300_BUCK_BASE NPM1300_BUCK_BUCKCTRL0 (0x08 + 0x04)

/-! ## Bits -/

/-- The bits of a mask are set and the others are as they were. -/
def SetsOnly (mask old new : BitVec 8) : Prop :=
  new &&& mask = mask ∧ new &&& ~~~mask = old &&& ~~~mask

/-- To set just the bits of a mask is to take the disjunction with it. -/
theorem setsOnly_iff {mask old new : BitVec 8} : SetsOnly mask old new ↔ new = old ||| mask := by
  refine ⟨?_, ?_⟩
  · rintro ⟨hset, hkept⟩
    ext i hi
    have hset := congrArg (·[i]) hset
    have hkept := congrArg (·[i]) hkept
    simp only [BitVec.getElem_and, BitVec.getElem_not, BitVec.getElem_or] at hset hkept ⊢
    revert hset hkept
    cases mask[i] <;> simp
  · rintro rfl
    refine ⟨?_, ?_⟩ <;> ext i hi <;>
      simp only [BitVec.getElem_and, BitVec.getElem_not, BitVec.getElem_or] <;>
      cases mask[i] <;> simp

/-- A masked update sets only the bits of the mask. -/
theorem maskedUpdate_self (old mask : BitVec 8) : maskedUpdate old mask mask = old ||| mask := by
  unfold maskedUpdate
  ext i hi
  simp only [BitVec.getElem_and, BitVec.getElem_not, BitVec.getElem_or]
  cases mask[i] <;> simp

/-- To write the mask itself sets only its bits where no other bit was set. -/
theorem setsOnly_mask_iff {mask old : BitVec 8} : SetsOnly mask old mask ↔ old &&& ~~~mask = 0 := by
  unfold SetsOnly
  rw [BitVec.and_self, and_iff_right rfl, BitVec.and_not_self, eq_comm]

/-- To write nothing does where all bits of the mask are set. -/
theorem setsOnly_self_iff {mask old : BitVec 8} : SetsOnly mask old old ↔ old &&& mask = mask :=
  and_iff_left rfl

/-! ## Boards -/

/-- The contents of `BUCKCTRL0`. -/
def Board.buckctrl0 (b : Board) : BitVec 8 := b.regs NPM1300_BUCK_BASE NPM1300_BUCK_BUCKCTRL0

def Board.setBuckctrl0 (b : Board) (data : BitVec 8) : Board :=
  b.setReg NPM1300_BUCK_BASE NPM1300_BUCK_BUCKCTRL0 data

/-- What is written to the register can be read from it. -/
@[simp] theorem Board.buckctrl0_setBuckctrl0 (b : Board) (data : BitVec 8) :
    (b.setBuckctrl0 data).buckctrl0 = data := by
  simp [buckctrl0, setBuckctrl0, setReg]

/-- The regulator does not touch the register. -/
@[simp] theorem Board.buckctrl0_disable (b : Board) : b.disable.buckctrl0 = b.buckctrl0 := rfl

/-- To write what is there changes nothing. -/
theorem Board.setBuckctrl0_self (b : Board) : b.setBuckctrl0 b.buckctrl0 = b := by
  obtain ⟨refcnt, buck2On, regs, uartActive⟩ := b
  have hregs : (fun x y => if x = NPM1300_BUCK_BASE ∧ y = NPM1300_BUCK_BUCKCTRL0 then
      regs NPM1300_BUCK_BASE NPM1300_BUCK_BUCKCTRL0 else regs x y) = regs := by
    funext x y
    split
    · next h => rw [h.1, h.2]
    · rfl
  simp only [setBuckctrl0, setReg, buckctrl0, hregs]

/-- The device is ready or not, the register reads succeed or not, and all other calls succeed. -/
def Served (ready readOk : Bool) : Event PmicCall.Ans → Prop
  | ⟨.deviceIsReady _, r⟩ => r = ready
  | ⟨.mfdNpm1300RegRead _ _, r⟩ => 0 ≤ r.1 ↔ readOk = true
  | ⟨c, r⟩ => c.Ok r

/-- BUCK2's pull-down is set and read as set. -/
def Board.Seen (b : Board) (readOk : Bool) : Prop :=
  readOk = true ∧ b.buckctrl0 &&& NPM1300_BUCK2_PULLDOWN_EN ≠ 0

instance (b : Board) (readOk : Bool) : Decidable (b.Seen readOk) :=
  inferInstanceAs (Decidable (_ ∧ _))

/-- The board after a write of the whole register behind the guard. -/
def Board.guardedWrite (b : Board) (readOk : Bool) (data : BitVec 8) : Board :=
  if b.Seen readOk then b else b.setBuckctrl0 data

/-- The guard of the two whole-byte writes. -/
theorem Board.guard_iff {b : Board} {ready readOk : Bool} {r : Int × BitVec 8}
    (hr : b.allows (.mfdNpm1300RegRead NPM1300_BUCK_BASE NPM1300_BUCK_BUCKCTRL0) r)
    (hs : Served ready readOk ⟨.mfdNpm1300RegRead NPM1300_BUCK_BASE NPM1300_BUCK_BUCKCTRL0, r⟩) :
    (if r.1 < 0 then 0 else r.2) &&& NPM1300_BUCK2_PULLDOWN_EN = 0 ↔ ¬ b.Seen readOk := by
  have hs : 0 ≤ r.1 ↔ readOk = true := hs
  unfold Seen
  rcases lt_or_ge r.1 0 with h | h
  · rw [if_pos h, ← hs]
    exact ⟨fun _ hc => absurd hc.1 (Int.not_le.2 h), fun _ => rfl⟩
  · have hdata : r.2 = b.buckctrl0 := hr h
    rw [if_neg (Int.not_lt.2 h), hdata, ← hs, and_iff_right h, not_not]

variable (ready readOk : Bool) (b : Board)

/-- The part that the two whole-byte writes share: the read, the guard and the write. -/
def guardedUpdate {α : Type} (data : BitVec 8) (a : α) : Prog PmicCall.Ans α := do
  let (err, reg) ← Board.mfdNpm1300RegRead NPM1300_BUCK_BASE NPM1300_BUCK_BUCKCTRL0
  if (if err < 0 then 0 else reg) &&& NPM1300_BUCK2_PULLDOWN_EN = 0 then
    let _ ← Board.mfdNpm1300RegWrite NPM1300_BUCK_BASE NPM1300_BUCK_BUCKCTRL0 data
    return a
  else return a

/-- The update of the deep-sleep sample is the guarded one, for both bucks. -/
theorem deepSleepPulldown_eq : deepSleepPulldown = guardedUpdate (0x08 + 0x04) () := rfl

/-- That of the active-sleep sample is the guarded one for BUCK2, once BUCK2 is off. -/
theorem setupPmic_eq :
    setupPmic true = (do
      if ← regulatorIsEnabled then
        let err ← regulatorDisable
        if err < 0 then
          return err
      guardedUpdate NPM1300_BUCK2_PULLDOWN_EN 0) := rfl

/-- Where every call is served, the guarded update writes its value unless it reads BUCK2's bit as
set. -/
theorem wp_guardedUpdate {α : Type} (data : BitVec 8) (a : α) :
    wp Board.env (guardedUpdate data a) (fun t _ b' => (∀ e ∈ t, Served ready readOk e) →
      b' = b.guardedWrite readOk data) b := by
  rw [guardedUpdate, Board.mfdNpm1300RegRead, Prog.perform_bind]
  refine wp_call_assuming ?_
  rintro ⟨err, reg⟩ hr hs
  have hguard : (if err < 0 then 0 else reg) &&& NPM1300_BUCK2_PULLDOWN_EN = 0 ↔
      ¬ b.Seen readOk := b.guard_iff hr hs
  dsimp only
  generalize (if err < 0 then (0 : BitVec 8) else reg) = value at hguard ⊢
  split
  · next h =>
    rw [Board.mfdNpm1300RegWrite, Prog.perform_bind]
    refine wp_call_assuming ?_
    intro w _ (hw : (0 : Int) ≤ w) _
    rw [Board.guardedWrite, if_neg (hguard.1 h)]
    exact if_neg (Int.not_lt.2 hw)
  · next h =>
    have hseen : b.Seen readOk := not_not.1 fun hn => h (hguard.2 hn)
    exact fun _ => (if_pos hseen).symm

/-- What the shared part can come to, whatever fails. -/
inductive UpdateOutcome (data : BitVec 8) (b : Board) :
    List (Event PmicCall.Ans) → Board → Prop where
  | seen {err : Int} (hset : b.buckctrl0 &&& NPM1300_BUCK2_PULLDOWN_EN ≠ 0) :
      UpdateOutcome data b
        [⟨.mfdNpm1300RegRead NPM1300_BUCK_BASE NPM1300_BUCK_BUCKCTRL0, (err, b.buckctrl0)⟩] b
  | failed {r : Int × BitVec 8} {w : Int} (hw : w < 0) :
      UpdateOutcome data b
        [⟨.mfdNpm1300RegRead NPM1300_BUCK_BASE NPM1300_BUCK_BUCKCTRL0, r⟩,
          ⟨.mfdNpm1300RegWrite NPM1300_BUCK_BASE NPM1300_BUCK_BUCKCTRL0 data, w⟩] b
  | written {r : Int × BitVec 8} {w : Int} (hw : ¬ w < 0) :
      UpdateOutcome data b
        [⟨.mfdNpm1300RegRead NPM1300_BUCK_BASE NPM1300_BUCK_BUCKCTRL0, r⟩,
          ⟨.mfdNpm1300RegWrite NPM1300_BUCK_BASE NPM1300_BUCK_BUCKCTRL0 data, w⟩]
        (b.setBuckctrl0 data)

/-- Whatever fails, the guarded update has seen the bit, has failed to write, or has written. -/
theorem guardedUpdate_outcome {α : Type} (data : BitVec 8) (a : α) :
    wp Board.env (guardedUpdate data a) (fun t _ b' => UpdateOutcome data b t b') b := by
  rw [guardedUpdate, Board.mfdNpm1300RegRead, Prog.perform_bind, wp_call]
  rintro ⟨err, reg⟩ hread
  have hread : 0 ≤ err → reg = b.buckctrl0 := hread
  have hseen : (if err < 0 then 0 else reg) &&& NPM1300_BUCK2_PULLDOWN_EN ≠ 0 →
      reg = b.buckctrl0 ∧ b.buckctrl0 &&& NPM1300_BUCK2_PULLDOWN_EN ≠ 0 := by
    intro hset
    rcases Int.lt_or_le err 0 with herr | herr
    · rw [if_pos herr] at hset
      exact absurd (BitVec.zero_and) hset
    · rw [if_neg (Int.not_lt.2 herr), hread herr] at hset
      exact ⟨hread herr, hset⟩
  dsimp only
  generalize (if err < 0 then (0 : BitVec 8) else reg) = value at hseen ⊢
  split
  · rw [Board.mfdNpm1300RegWrite, Prog.perform_bind, wp_call]
    intro w _
    have hnext : Board.env.next b (.mfdNpm1300RegWrite NPM1300_BUCK_BASE NPM1300_BUCK_BUCKCTRL0
        data) w = if w < (0 : Int) then b else b.setBuckctrl0 data := rfl
    by_cases hw : w < (0 : Int)
    · rw [if_pos hw] at hnext
      exact hnext.symm ▸ .failed hw
    · rw [if_neg hw] at hnext
      exact hnext.symm ▸ .written hw
  · next hset =>
    obtain ⟨rfl, hset⟩ := hseen hset
    exact .seen hset

/-- The board after `setup_pmic`. -/
def Board.setupPmic (b : Board) (readOk : Bool) : Board :=
  (if b.refcnt ≠ 0 then b.disable else b).guardedWrite readOk NPM1300_BUCK2_PULLDOWN_EN

/-- Where every call is served, `setup_pmic` is disable and guarded write. -/
theorem wp_setupPmic :
    wp Board.env (setupPmic true) (fun t _ b' => (∀ e ∈ t, Served ready readOk e) →
      b' = b.setupPmic readOk) b := by
  rw [setupPmic_eq, regulatorIsEnabled, Prog.perform_bind]
  refine wp_call_assuming ?_
  intro enabled henabled _
  have henabled : (enabled = true) = (b.refcnt ≠ 0) := henabled
  unfold Board.setupPmic
  split
  · next h =>
    rw [regulatorDisable, Prog.perform_bind, if_pos (henabled.mp h)]
    refine wp_call_assuming ?_
    intro err _ (herr : (0 : Int) ≤ err)
    have hnext : b.next .regulatorDisable err = b.disable := if_neg (Int.not_lt.2 herr)
    rw [if_neg (Int.not_lt.2 herr)]
    exact hnext ▸ wp_guardedUpdate ready readOk _ NPM1300_BUCK2_PULLDOWN_EN (0 : Int)
  · next h =>
    rw [if_neg (henabled ▸ h)]
    exact wp_guardedUpdate ready readOk b NPM1300_BUCK2_PULLDOWN_EN (0 : Int)

/-- Where every call is served, `buck2_set_mode` sets just the one bit. -/
theorem wp_buck2SetMode :
    wp Board.env (buck2SetMode false) (fun t _ b' => (∀ e ∈ t, Served ready readOk e) →
      b' = if ready then b.setBuck2 false else b) b := by
  rw [buck2SetMode, deviceIsReady, Prog.perform_bind]
  refine wp_call_assuming ?_
  intro isReady _ (hready : isReady = ready)
  subst hready
  cases isReady with
  | false => exact fun _ => rfl
  | true =>
    show wp Board.env (regulatorDisable >>= _) _ b
    rw [regulatorDisable, Prog.perform_bind]
    refine wp_call_assuming ?_
    intro err _ (herr : (0 : Int) ≤ err)
    have hnext : Board.env.next b .regulatorDisable err = b.disable :=
      if_neg (Int.not_lt.2 herr)
    rw [if_neg (Int.not_lt.2 herr), hnext, mfdNpm1300RegUpdate, Prog.perform_bind]
    refine wp_call_assuming ?_
    intro err' _ (herr' : (0 : Int) ≤ err')
    rw [if_neg (Int.not_lt.2 herr')]
    exact fun _ => if_neg (Int.not_lt.2 herr')

/-! ## Outcomes -/

/-- Every call may be served so. -/
theorem board_serves (b : Board) (c : PmicCall) :
    ∃ r, Board.env.allows b c r ∧ Served ready readOk ⟨c, r⟩ := by
  cases c with
  | deviceIsReady dev => exact ⟨ready, trivial, rfl⟩
  | regulatorIsEnabled => exact ⟨decide (b.refcnt ≠ 0), decide_eq_true_eq, trivial⟩
  | mfdNpm1300RegRead base offset =>
    cases readOk with
    | true => exact ⟨(0, b.regs base offset), fun _ => rfl, ⟨fun _ => rfl, fun _ => le_refl _⟩⟩
    | false => exact ⟨(-1, 0), nofun, ⟨nofun, nofun⟩⟩
  | tasksHfclkstop => exact ⟨(), trivial, trivial⟩
  | regulatorEnable | regulatorDisable | mfdNpm1300RegWrite | mfdNpm1300RegUpdate
  | pmDeviceActionRun => exact ⟨(0 : Int), trivial, le_refl (0 : Int)⟩

/-- A program can lead from a board to another when it is served so. -/
def Leads {α : Type} (p : Prog PmicCall.Ans α) (b' : Board) : Prop :=
  ∃ t a, Exec Board.env b p t a b' ∧ ∀ e ∈ t, Served ready readOk e

variable {ready readOk b}

/-- A program whose outcome is known leads to nothing else, and does lead there. -/
theorem leads_iff {α : Type} {p : Prog PmicCall.Ans α} {b₁ b' : Board}
    (hp : wp Board.env p (fun t _ b' => (∀ e ∈ t, Served ready readOk e) → b' = b₁) b) :
    Leads ready readOk b p b' ↔ b' = b₁ := by
  refine ⟨?_, ?_⟩
  · rintro ⟨t, a, h, ht⟩
    exact h.of_wp hp ht
  · rintro rfl
    obtain ⟨t, a, b'', h, ht⟩ := exists_exec_forall (board_serves ready readOk) p b
    obtain rfl : b'' = b' := h.of_wp hp ht
    exact ⟨t, a, h, ht⟩

/-- `setup_pmic` leads to one board only. -/
theorem leads_setupPmic {b' : Board} :
    Leads ready readOk b (setupPmic true) b' ↔ b' = b.setupPmic readOk :=
  leads_iff (wp_setupPmic ready readOk b)

/-- So does the update of the deep-sleep sample. -/
theorem leads_deepSleepPulldown {b' : Board} :
    Leads ready readOk b deepSleepPulldown b' ↔ b' = b.guardedWrite readOk (0x08 + 0x04) := by
  rw [deepSleepPulldown_eq]
  exact leads_iff (wp_guardedUpdate ready readOk b (0x08 + 0x04) ())

/-- So does `buck2_set_mode`. -/
theorem leads_buck2SetMode {b' : Board} :
    Leads ready readOk b (buck2SetMode false) b' ↔ b' = if ready then b.setBuck2 false else b :=
  leads_iff (wp_buck2SetMode ready readOk b)

/-- What is expected of the three updates: each sets the pull-downs it names and leaves the other
bits of `BUCKCTRL0` alone, and the two that also turn BUCK2 off come to the same board from one on
which BUCK2 has one user. -/
structure PulldownsOk (ready readOk : Bool) (b : Board) : Prop where
  setupPmic : ∀ b', Leads ready readOk b (setupPmic true) b' →
    SetsOnly NPM1300_BUCK2_PULLDOWN_EN b.buckctrl0 b'.buckctrl0
  deepSleep : ∀ b', Leads ready readOk b deepSleepPulldown b' →
    SetsOnly (0x08 + 0x04) b.buckctrl0 b'.buckctrl0
  buck2SetMode : ∀ b', Leads ready readOk b (buck2SetMode false) b' →
    SetsOnly NPM1300_BUCK2_PULLDOWN_EN b.buckctrl0 b'.buckctrl0
  agree : b.buck2On = true → b.refcnt = 1 → ∀ b₁ b₂,
    Leads ready readOk b (NrfFeather.setupPmic true) b₁ →
    Leads ready readOk b (NrfFeather.buck2SetMode false) b₂ → b₁ = b₂

/-! ## Bits of `BUCKCTRL0` -/

/-- A mask of one bit is met when it is met at all. -/
theorem pulldownEn_iff : ∀ v : BitVec 8,
    v &&& NPM1300_BUCK2_PULLDOWN_EN ≠ 0 ↔
      v &&& NPM1300_BUCK2_PULLDOWN_EN = NPM1300_BUCK2_PULLDOWN_EN := by decide

/-- Both bits are set when each is. -/
theorem both_pulldowns_iff : ∀ v : BitVec 8,
    v &&& (0x08 + 0x04) = 0x08 + 0x04 ↔
      v &&& NPM1300_BUCK2_PULLDOWN_EN ≠ 0 ∧ v &&& 0x04 ≠ 0 := by decide

/-- A register with no bit set but BUCK2's has none set but those of the two bucks. -/
theorem others_of_pulldownEn : ∀ v : BitVec 8,
    v &&& ~~~NPM1300_BUCK2_PULLDOWN_EN = 0 → v &&& ~~~(0x08 + 0x04) = 0 := by decide

/-- When a guarded write of the mask sets only the bits of the mask. -/
theorem setsOnly_guardedWrite_iff {mask : BitVec 8} :
    SetsOnly mask b.buckctrl0 (b.guardedWrite readOk mask).buckctrl0 ↔
      if b.Seen readOk then b.buckctrl0 &&& mask = mask else b.buckctrl0 &&& ~~~mask = 0 := by
  unfold Board.guardedWrite
  split
  · exact setsOnly_self_iff
  · rw [Board.buckctrl0_setBuckctrl0]
    exact setsOnly_mask_iff

/-- As to the register, `setup_pmic` is the guarded write. -/
theorem Board.buckctrl0_setupPmic (b : Board) (readOk : Bool) :
    (b.setupPmic readOk).buckctrl0 =
      (b.guardedWrite readOk NPM1300_BUCK2_PULLDOWN_EN).buckctrl0 := by
  have hseen : b.disable.Seen readOk ↔ b.Seen readOk := Iff.rfl
  unfold setupPmic guardedWrite
  split
  · split
    · next h => rw [if_pos (hseen.1 h), buckctrl0_disable]
    · next h => rw [if_neg fun hs => h (hseen.2 hs), buckctrl0_setBuckctrl0, buckctrl0_setBuckctrl0]
  · rfl

/-- To turn BUCK2 off is to disable it and to set its pull-down bit. -/
theorem Board.setBuck2_false_eq (b : Board) :
    b.setBuck2 false = b.disable.setBuckctrl0 (b.buckctrl0 ||| NPM1300_BUCK2_PULLDOWN_EN) := by
  have hupdate := maskedUpdate_self b.disable.buckctrl0 NPM1300_BUCK2_PULLDOWN_EN
  rw [← b.buckctrl0_disable, ← hupdate]
  rfl

/-- Where `setup_pmic` sets only BUCK2's pull-down, it leads a board with one user of BUCK2 to where
`buck2_set_mode` leads it. -/
theorem Board.setupPmic_eq_setBuck2 (hrefcnt : b.refcnt = 1)
    (h : SetsOnly NPM1300_BUCK2_PULLDOWN_EN b.buckctrl0 (b.setupPmic readOk).buckctrl0) :
    b.setupPmic readOk = b.setBuck2 false := by
  have hne : b.refcnt ≠ 0 := by omega
  rw [setBuck2_false_eq, ← setsOnly_iff.1 h]
  unfold setupPmic guardedWrite
  rw [if_pos hne]
  split
  · exact b.disable.setBuckctrl0_self.symm
  · rw [buckctrl0_setBuckctrl0]

/-- `setup_pmic` turns off a BUCK2 that is on for one user. -/
theorem Board.setupPmic_ne_self (hrefcnt : b.refcnt = 1) : b.setupPmic readOk ≠ b := by
  have hne : b.refcnt ≠ 0 := by omega
  have hcount : (b.setupPmic readOk).refcnt = 0 := by
    unfold setupPmic guardedWrite
    rw [if_pos hne]
    split <;> simp [disable, setBuckctrl0, setReg, hrefcnt]
  intro h
  rw [h] at hcount
  exact hne hcount

/-- `buck2_set_mode` sets only BUCK2's pull-down, if the device is ready. -/
theorem setsOnly_setBuck2_iff :
    SetsOnly NPM1300_BUCK2_PULLDOWN_EN b.buckctrl0
        (if ready then b.setBuck2 false else b).buckctrl0 ↔
      ready = true ∨ b.buckctrl0 &&& NPM1300_BUCK2_PULLDOWN_EN ≠ 0 := by
  cases ready with
  | true =>
    rw [if_pos rfl, Board.setBuck2_false_eq, Board.buckctrl0_setBuckctrl0]
    exact iff_of_true (setsOnly_iff.2 rfl) (.inl rfl)
  | false =>
    rw [if_neg Bool.false_ne_true, setsOnly_self_iff, ← pulldownEn_iff]
    exact (or_iff_right Bool.false_ne_true).symm

/-! ## When the updates do what is expected -/

/-- The three updates do what is expected of them exactly in these cases. Where BUCK2's pull-down
is read as set, BUCK1's has to be set too; otherwise no other bit of `BUCKCTRL0` may be set. And
the device has to be ready, unless there is nothing left for `buck2_set_mode` to do. -/
theorem pulldown_updates_iff (ready readOk : Bool) (b : Board) :
    PulldownsOk ready readOk b ↔
      (if b.Seen readOk then b.buckctrl0 &&& 0x04 ≠ 0
        else b.buckctrl0 &&& ~~~NPM1300_BUCK2_PULLDOWN_EN = 0) ∧
      (ready = true ∨ b.buckctrl0 &&& NPM1300_BUCK2_PULLDOWN_EN ≠ 0 ∧
        ¬ (b.buck2On = true ∧ b.refcnt = 1)) := by
  refine ⟨?_, ?_⟩
  · rintro ⟨h₁, h₂, h₃, h₄⟩
    have h₁ := h₁ _ (leads_setupPmic.2 rfl)
    have h₂ := setsOnly_guardedWrite_iff.1 (h₂ _ (leads_deepSleepPulldown.2 rfl))
    rw [Board.buckctrl0_setupPmic, setsOnly_guardedWrite_iff] at h₁
    refine ⟨?_, ?_⟩
    · split
      · next h =>
        rw [if_pos h, both_pulldowns_iff] at h₂
        exact h₂.2
      · next h =>
        rw [if_neg h] at h₁
        exact h₁
    · rcases setsOnly_setBuck2_iff.1 (h₃ _ (leads_buck2SetMode.2 rfl)) with hready | hset
      · exact .inl hready
      · cases ready with
        | true => exact .inl rfl
        | false =>
          refine .inr ⟨hset, ?_⟩
          rintro ⟨hon, hrefcnt⟩
          exact Board.setupPmic_ne_self hrefcnt
            (h₄ hon hrefcnt _ _ (leads_setupPmic.2 rfl) (leads_buck2SetMode.2 rfl))
  · rintro ⟨hbits, hready⟩
    have h₁ : SetsOnly NPM1300_BUCK2_PULLDOWN_EN b.buckctrl0 (b.setupPmic readOk).buckctrl0 := by
      rw [Board.buckctrl0_setupPmic, setsOnly_guardedWrite_iff]
      split
      · next h => exact (pulldownEn_iff _).1 h.2
      · next h =>
        rw [if_neg h] at hbits
        exact hbits
    refine ⟨?_, ?_, ?_, ?_⟩
    · intro b' h
      rw [leads_setupPmic.1 h]
      exact h₁
    · intro b' h
      rw [leads_deepSleepPulldown.1 h, setsOnly_guardedWrite_iff]
      split
      · next hs =>
        rw [if_pos hs] at hbits
        exact (both_pulldowns_iff _).2 ⟨hs.2, hbits⟩
      · next hs =>
        rw [if_neg hs] at hbits
        exact others_of_pulldownEn _ hbits
    · intro b' h
      rw [leads_buck2SetMode.1 h, setsOnly_setBuck2_iff]
      exact hready.imp_right And.left
    · intro hon hrefcnt b₁ b₂ h₁' h₂'
      have hready : ready = true := hready.resolve_right fun hc => hc.2 ⟨hon, hrefcnt⟩
      rw [leads_setupPmic.1 h₁', leads_buck2SetMode.1 h₂', if_pos hready,
        Board.setupPmic_eq_setBuck2 hrefcnt h₁]

/-- BUCK2 is on with one user. -/
def Board.on (buckctrl0 : BitVec 8) : Board where
  refcnt := 1
  buck2On := true
  regs _ _ := buckctrl0
  uartActive := true

/-- `setup_pmic` clears the mode bit of BUCK2, and the step of `main` leaves the pull-down of BUCK1
unset where that of BUCK2 is set. -/
theorem pulldown_updates_clobber :
    (∃ b, Leads true true (.on 0x01) (setupPmic true) b ∧ b.buckctrl0 = 0x08) ∧
    Leads true true (.on 0x08) deepSleepPulldown (.on 0x08) ∧
    ¬ PulldownsOk true true (.on 0x01) ∧ ¬ PulldownsOk true true (.on 0x08) := by
  have hsetup : Leads true true (.on 0x01) (setupPmic true) ((Board.on 0x01).setupPmic true) :=
    leads_setupPmic.2 rfl
  have hdeep : Leads true true (.on 0x08) deepSleepPulldown (.on 0x08) :=
    leads_deepSleepPulldown.2 rfl
  refine ⟨⟨_, hsetup, by decide⟩, hdeep, ?_, ?_⟩
  · intro h
    exact absurd (h.setupPmic _ hsetup).2 (by decide)
  · intro h
    exact absurd (h.deepSleep _ hdeep).1 (by decide)

end NrfFeather
