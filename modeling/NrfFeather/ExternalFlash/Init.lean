import NrfFeather.Lib.Calls
import NrfFeather.Zephyr

/-!
# Wiping the external flash

`nor_storage_init` of `samples/external_flash/src/main.c` runs at every boot. It takes the directory
`/lfs/erased` for the sign that the flash was wiped before: when `fs_stat` does not find it, the
flash area is erased and the directory created. Erasing destroys everything on the flash, this
marker included. Any error of `fs_stat` counts as a missing marker.
-/

namespace NrfFeather

open Effects Transition

/-! ## The file system and the flash -/

def NOR_STORAGE_ERASED_ON_BOOT : String := "/lfs/erased"

/-- `struct fs_mount_t`. -/
structure FsMount where
  mntPoint : String
  storageDev : Nat

/-- `struct flash_area`. -/
structure FlashArea where
  faSize : Nat

inductive FsCall where
  | fsStatvfs (path : String)
  | fsStat (path : String)
  | flashAreaOpen (id : Nat)
  | flashAreaErase (pfa : FlashArea) (off len : Nat)
  | flashAreaClose (pfa : FlashArea)
  | fsMkdir (path : String)

/-- The code a call returns. Opening an area also delivers it, and an erasure that fails leaves
some of the paths. -/
@[reducible] def FsCall.Ans : FsCall → Type
  | .flashAreaOpen _ => Int × FlashArea
  | .flashAreaErase _ _ _ => Int × (String → Bool)
  | .flashAreaClose _ => Unit
  | _ => Int

/-- The paths that are present on the flash. -/
structure Storage where
  present : String → Bool

namespace Storage

/-- The marker is there. -/
def Marked (s : Storage) : Prop := s.present NOR_STORAGE_ERASED_ON_BOOT = true

/-- A directory is there after its successful creation, and nothing is after a successful
erasure. -/
def next (s : Storage) : (c : FsCall) → c.Ans → Storage
  | .fsMkdir path, r => if r = 0 then ⟨fun p => p = path || s.present p⟩ else s
  | .flashAreaErase _ _ _, r => ⟨fun p => decide (r.1 < 0) && r.2 p && s.present p⟩
  | _, _ => s

/-- Every call may fail; `fs_stat` succeeds only on what is there. -/
def allows (s : Storage) : (c : FsCall) → c.Ans → Prop
  | .fsStat path, r => r = 0 → s.present path = true
  | _, _ => True

def env : Env FsCall.Ans Storage := ⟨allows, next⟩

end Storage

/-! ## Initialisation -/

def fsStatvfs (path : String) : Prog FsCall.Ans Int := .perform (FsCall.fsStatvfs path)

def fsStat (path : String) : Prog FsCall.Ans Int := .perform (FsCall.fsStat path)

def flashAreaOpen (id : Nat) : Prog FsCall.Ans (Int × FlashArea) :=
  .perform (FsCall.flashAreaOpen id)

def flashAreaErase (pfa : FlashArea) (off len : Nat) : Prog FsCall.Ans (Int × (String → Bool)) :=
  .perform (FsCall.flashAreaErase pfa off len)

def flashAreaClose (pfa : FlashArea) : Prog FsCall.Ans Unit := .perform (FsCall.flashAreaClose pfa)

def fsMkdir (path : String) : Prog FsCall.Ans Int := .perform (FsCall.fsMkdir path)

/-- `littlefs_flash_erase`; `wipe` is `IS_ENABLED(CONFIG_APP_WIPE_STORAGE)`. -/
def littlefsFlashErase (wipe : Bool) (id : Nat) : Prog FsCall.Ans Int := do
  let (rc, pfa) ← flashAreaOpen id
  if rc < 0 then
    return rc
  let mut rc := rc
  if wipe then
    let (err, _) ← flashAreaErase pfa 0 pfa.faSize
    rc := err
  flashAreaClose pfa
  return rc

def norStorageInit (wipe : Bool) (mp : FsMount) : Prog FsCall.Ans Int := do
  -- the statistics are only logged
  let _ ← fsStatvfs mp.mntPoint
  let err ← fsStat NOR_STORAGE_ERASED_ON_BOOT
  if err ≠ 0 then
    let err ← littlefsFlashErase wipe mp.storageDev
    if err < 0 then
      return err
    let err ← fsMkdir NOR_STORAGE_ERASED_ON_BOOT
    if err ≠ 0 then
      return err
  return 0

/-! ## What a call does -/

/-- `flash_area_erase` is called. One that fails counts as well: it may have erased some of the
area. -/
def IsErase : Event FsCall.Ans → Prop
  | ⟨.flashAreaErase _ _ _, _⟩ => True
  | _ => False

/-- `fs_mkdir` has created the marker. -/
def MarkerCreated : Event FsCall.Ans → Prop
  | ⟨.fsMkdir path, r⟩ => path = NOR_STORAGE_ERASED_ON_BOOT ∧ r = 0
  | _ => False

/-- `fs_stat` fails, with whatever error. -/
def StatFailed : Event FsCall.Ans → Prop
  | ⟨.fsStat _, r⟩ => r ≠ 0
  | _ => False

/-- The flash area can be opened. -/
def AreaOpened : Event FsCall.Ans → Prop
  | ⟨.flashAreaOpen _, r⟩ => 0 ≤ r.1
  | _ => False

/-- In a call with this trace the flash area is erased, or at least its erasure is tried. -/
def Erases (t : List (Event FsCall.Ans)) : Prop := ∃ e ∈ t, IsErase e

/-- After the last erasure the marker is created. -/
def CreatesMarker (t : List (Event FsCall.Ans)) : Prop :=
  ∃ t₁ e t₂, t = t₁ ++ e :: t₂ ∧ MarkerCreated e ∧ ∀ e' ∈ t₂, ¬ IsErase e'

/-- `fs_stat` fails while the flash area can be opened. -/
def Mistaken (t : List (Event FsCall.Ans)) : Prop :=
  (∃ e ∈ t, StatFailed e) ∧ ∃ e ∈ t, AreaOpened e

/-- What a call of `nor_storage_init` does in a build that wipes: it erases the area exactly when it
does not find the marker and can open the area, whatever the reason for not finding it. -/
structure InitPost (s : Storage) (t : List (Event FsCall.Ans)) (ret : Int) (s' : Storage) :
    Prop where
  erases_iff : Erases t ↔ Mistaken t
  keeps : s.Marked → ¬ Erases t → s'.Marked
  creates : Erases t → ret = 0 → CreatesMarker t
  success : ret = 0 → s'.Marked

section
variable {mp : FsMount} {s : Storage}

/-- The trace of a call that erases, up to the closing of the area. -/
def wipeTrace (mp : FsMount) (sv err : Int) (area : Int × FlashArea) (e : Int × (String → Bool)) :
    List (Event FsCall.Ans) :=
  [⟨.fsStatvfs mp.mntPoint, sv⟩, ⟨.fsStat NOR_STORAGE_ERASED_ON_BOOT, err⟩,
    ⟨.flashAreaOpen mp.storageDev, area⟩, ⟨.flashAreaErase area.2 0 area.2.faSize, e⟩,
    ⟨.flashAreaClose area.2, ()⟩]

/-- A call that erases, and creates the marker if it succeeds. -/
theorem InitPost.of_wipeTrace {sv err : Int} {area : Int × FlashArea} {e : Int × (String → Bool)}
    {ret : Int} {s' : Storage} {tail : List (Event FsCall.Ans)} (herr : err ≠ 0)
    (harea : 0 ≤ area.1)
    (hret : ret = 0 → tail = [⟨.fsMkdir NOR_STORAGE_ERASED_ON_BOOT, (0 : Int)⟩] ∧ s'.Marked) :
    InitPost s (wipeTrace mp sv err area e ++ tail) ret s' := by
  have herases : Erases (wipeTrace mp sv err area e ++ tail) := by
    simp [Erases, wipeTrace, IsErase]
  have hmistaken : Mistaken (wipeTrace mp sv err area e ++ tail) := by
    simp [Mistaken, wipeTrace, StatFailed, AreaOpened, herr, harea]
  refine ⟨iff_of_true herases hmistaken, fun _ h => absurd herases h, fun _ h0 => ?_,
    fun h0 => (hret h0).2⟩
  obtain ⟨rfl, -⟩ := hret h0
  exact ⟨_, _, [], rfl, ⟨rfl, rfl⟩, fun _ h => absurd h List.not_mem_nil⟩

/-- A call that finds the marker or cannot open the area. -/
theorem InitPost.of_idle {t : List (Event FsCall.Ans)} {ret : Int} (herases : ¬ Erases t)
    (hmistaken : ¬ Mistaken t) (hret : ret = 0 → s.Marked) : InitPost s t ret s :=
  ⟨iff_of_false herases hmistaken, fun hs _ => hs, fun h => absurd h herases, hret⟩

/-- Each call comes to what `InitPost` says. -/
theorem wp_norStorageInit (mp : FsMount) (s : Storage) :
    wp Storage.env (norStorageInit true mp) (InitPost s) s := by
  simp only [norStorageInit, littlefsFlashErase, fsStatvfs, fsStat, flashAreaOpen, flashAreaErase,
    flashAreaClose, fsMkdir, Prog.perform_bind, Prog.call_bind, wp_call]
  intro sv _ err hstat
  by_cases herr : err = 0
  · -- the marker was found
    subst herr
    refine .of_idle ?_ ?_ fun _ => hstat rfl
    · simp [Erases, IsErase]
    · simp [Mistaken, StatFailed]
  · simp only [ne_eq, herr, not_false_eq_true, if_true, wp_call]
    rintro ⟨rc, pfa⟩ -
    by_cases hrc : rc < 0
    · -- the area cannot be opened
      simp only [hrc, if_true, Prog.pure_eq, Prog.ret_bind, wp_ret]
      refine .of_idle ?_ ?_ ?_
      · simp [Erases, IsErase]
      · simp [Mistaken, AreaOpened, hrc]
      · intro h
        omega
    · simp only [hrc, if_false, Prog.call_bind, Prog.pure_eq, Prog.ret_bind, wp_call]
      rintro ⟨e, left⟩ - ⟨⟩ -
      by_cases he : e < 0
      · -- the erasure fails
        simp only [he, if_true, wp_ret]
        exact .of_wipeTrace herr (Int.not_lt.1 hrc) fun h => by omega
      · simp only [he, if_false, wp_call]
        intro m _
        by_cases hm : m = 0
        · subst hm
          simp only [not_true, if_false, wp_ret]
          refine .of_wipeTrace herr (Int.not_lt.1 hrc) fun _ => ⟨rfl, ?_⟩
          simp [Storage.env, Storage.next, Storage.Marked]
        · simp only [hm, not_false_eq_true, if_true, wp_ret]
          exact .of_wipeTrace herr (Int.not_lt.1 hrc) fun h => absurd h hm

end

/-! ## Runs of boots -/

/-- One call of `nor_storage_init`, at some boot. -/
abbrev Boot : Type := Called FsCall.Ans Storage Int

/-- The area is erased only in a boot that finds no marker; hence never again after a boot that
succeeded with the marker there; and a boot that erased succeeds only if it created the marker. In
all of this an erasure that fails is one too. -/
structure WipedOnce (bs : List Boot) : Prop where
  unmarked : ∀ b ∈ bs, Erases b.trace → ¬ b.before.Marked
  later : bs.Pairwise fun b b' => b.ret = 0 ∧ b.after.Marked → ¬ Erases b'.trace
  created : ∀ b ∈ bs, Erases b.trace → b.ret = 0 → CreatesMarker b.trace ∧ b.after.Marked

/-- In a run of any number of boots the file system is never wiped again exactly when no boot that
finds the marker has its `fs_stat` fail while the flash area can be opened. -/
theorem wiped_once_iff {mp : FsMount} {s t : Storage} {bs : List Boot}
    (h : Run (CallStep Storage.env (norStorageInit true mp)) s bs t) :
    WipedOnce bs ↔ ∀ b ∈ bs, b.before.Marked → ¬ Mistaken b.trace := by
  have hpost := CallRun.post (wp_norStorageInit mp) h
  constructor
  · intro hw b hb hmarked hmistaken
    exact hw.unmarked b hb ((hpost b hb).erases_iff.2 hmistaken) hmarked
  · intro hcond
    have hkeeps : ∀ s b t, s.Marked → Guarded (CallStep Storage.env (norStorageInit true mp))
        (fun _ b => b.before.Marked → ¬ Mistaken b.trace) s b t →
        t.Marked ∧ ¬ Erases b.trace := by
      rintro s b t hs ⟨hb, hstep⟩
      have hpost := hstep.post (wp_norStorageInit mp)
      obtain ⟨rfl, rfl, -⟩ := hstep
      have herases : ¬ Erases b.trace := fun he => hb hs (hpost.erases_iff.1 he)
      exact ⟨hpost.keeps hs herases, herases⟩
    refine ⟨fun b hb he hmarked => hcond b hb hmarked ((hpost b hb).erases_iff.1 he), ?_,
      fun b hb he hret => ⟨(hpost b hb).creates he hret, (hpost b hb).success hret⟩⟩
    have hmarks : ∀ s b t, Guarded (CallStep Storage.env (norStorageInit true mp))
        (fun _ b => b.before.Marked → ¬ Mistaken b.trace) s b t →
        b.ret = 0 ∧ b.after.Marked → t.Marked := by
      rintro s b t ⟨-, -, rfl, -⟩ hb
      exact hb.2
    exact (h.guard hcond).pairwise hmarks (fun s b t hs hb => (hkeeps s b t hs hb).1)
      fun s b t hs hb => (hkeeps s b t hs hb).2

def lfsMount : FsMount := { mntPoint := "/lfs", storageDev := 0 }

def lfsArea : FlashArea := { faSize := 0x100000 }

/-- An empty flash, and one on which there is only the marker. -/
def Storage.empty : Storage := ⟨fun _ => false⟩

def Storage.wiped : Storage :=
  Storage.empty.next (.fsMkdir NOR_STORAGE_ERASED_ON_BOOT) (0 : Int)

/-- The marker is all that is there. -/
theorem Storage.wiped_marked : Storage.wiped.Marked := by
  simp [Storage.wiped, Storage.next, Storage.Marked]

/-- A boot in which every call but `fs_stat` succeeds, and the flash is wiped. -/
def wipingBoot (before : Storage) (stat : Int) : Boot where
  before := before
  trace := wipeTrace lfsMount 0 stat (0, lfsArea) (0, fun _ => false) ++
    [⟨.fsMkdir NOR_STORAGE_ERASED_ON_BOOT, (0 : Int)⟩]
  ret := 0
  after := Storage.wiped

/-- Such a boot is made wherever `fs_stat` fails. -/
theorem wipingBoot_step {before : Storage} {stat : Int} (h : stat ≠ 0) :
    CallStep Storage.env (norStorageInit true lfsMount) before (wipingBoot before stat)
      Storage.wiped := by
  refine ⟨rfl, rfl, ?_⟩
  simp only [norStorageInit, fsStatvfs, fsStat, Prog.perform_bind]
  refine .call trivial (.call (fun h0 => absurd h0 h) ?_)
  rw [if_pos h]
  exact .call trivial (.call trivial (.call trivial (.call trivial .ret)))

/-- A boot that finds the marker. -/
def laterBoot : Boot where
  before := Storage.wiped
  trace := [⟨.fsStatvfs lfsMount.mntPoint, (0 : Int)⟩,
    ⟨.fsStat NOR_STORAGE_ERASED_ON_BOOT, (0 : Int)⟩]
  ret := 0
  after := Storage.wiped

/-- It leaves the flash as it is. -/
theorem laterBoot_step :
    CallStep Storage.env (norStorageInit true lfsMount) Storage.wiped laterBoot Storage.wiped :=
  ⟨rfl, rfl, .call trivial (.call (fun _ => Storage.wiped_marked) .ret)⟩

/-- The first boot wipes an empty flash, and the second one finds the marker. -/
theorem wiped_once_two_boots :
    Run (CallStep Storage.env (norStorageInit true lfsMount)) Storage.empty
        [wipingBoot Storage.empty (-ENOENT), laterBoot] Storage.wiped ∧
      WipedOnce [wipingBoot Storage.empty (-ENOENT), laterBoot] := by
  have h : Run (CallStep Storage.env (norStorageInit true lfsMount)) Storage.empty
      [wipingBoot Storage.empty (-ENOENT), laterBoot] Storage.wiped :=
    .cons (wipingBoot_step (by decide)) (.cons laterBoot_step (.nil _))
  refine ⟨h, (wiped_once_iff h).2 ?_⟩
  intro b hb hmarked
  rcases List.mem_cons.1 hb with rfl | hb
  · exact absurd hmarked Bool.false_ne_true
  · rw [List.mem_singleton.1 hb]
    simp [Mistaken, laterBoot, StatFailed]

/-- A boot that succeeds is followed by one whose `fs_stat` fails with `-EIO`: it wipes the flash
again, with everything that was stored since. -/
theorem io_error_wipes :
    Run (CallStep Storage.env (norStorageInit true lfsMount)) Storage.empty
        [wipingBoot Storage.empty (-ENOENT), wipingBoot Storage.wiped (- EIO)] Storage.wiped ∧
      (wipingBoot Storage.wiped (- EIO)).before.Marked ∧
      Erases (wipingBoot Storage.wiped (- EIO)).trace ∧
      ¬ WipedOnce [wipingBoot Storage.empty (-ENOENT), wipingBoot Storage.wiped (- EIO)] := by
  have herases : Erases (wipingBoot Storage.wiped (- EIO)).trace := by
    simp [Erases, wipingBoot, wipeTrace, IsErase]
  refine ⟨.cons (wipingBoot_step (by decide)) (.cons (wipingBoot_step (by decide)) (.nil _)),
    Storage.wiped_marked, herases, fun h => ?_⟩
  exact h.unmarked _ (.tail _ (.head _)) herases Storage.wiped_marked

end NrfFeather
