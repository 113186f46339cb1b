import NrfFeather.ExternalFlash.BootCount
import NrfFeather.ExternalFlash.Init
import NrfFeather.Lib.Views

/-!
# The external-flash sample

`main` of `samples/external_flash/src/main.c` wipes the flash where it finds no marker, and then
increments the boot counter, a file on the same flash. `ExtFlash` is the flash that both see: the
wiping through the paths that are present, the counter through the contents of the files. An
erasure takes the counter with it, and so does one that is made only because `fs_stat` failed.
-/

namespace NrfFeather

open Effects Transition

/-! ## The flash -/

inductive FlashCall where
  | fs (c : FsCall)
  | file (c : FileCall)

@[reducible] def FlashCall.Ans : FlashCall → Type
  | .fs c => c.Ans
  | .file c => c.Ans

/-- The directories, the contents of the files, and the open file with its position. -/
structure ExtFlash where
  dirs : String → Bool
  files : String → Option (List UInt8)
  file : Option (String × Nat)

namespace ExtFlash

/-- The paths that are present. -/
def storage (s : ExtFlash) : Storage := ⟨fun p => s.dirs p || (s.files p).isSome⟩

/-- The files. -/
def fileStore (s : ExtFlash) : FileStore := ⟨s.files, s.file⟩

/-- A directory is not opened as a file, and `fs_mkdir` returns no positive code. -/
def allows (s : ExtFlash) : (c : FlashCall) → c.Ans → Prop
  | .fs (.fsMkdir _), r => (r : Int) ≤ 0
  | .fs c, r => s.storage.allows c r
  | .file (.fsOpen fname flags), r =>
    s.fileStore.allows (.fsOpen fname flags) r ∧ (s.dirs fname = true → r < 0)
  | .file c, r => s.fileStore.allows c r

/-- An erasure that fails leaves some of the paths, and one that succeeds leaves none. -/
def next (s : ExtFlash) : (c : FlashCall) → c.Ans → ExtFlash
  | .fs (.fsMkdir path), r => if r = 0 then { s with dirs := fun p => p = path || s.dirs p } else s
  | .fs (.flashAreaErase _ _ _), r =>
    let left p := decide (r.1 < 0) && r.2 p
    { s with
      dirs := fun p => left p && s.dirs p
      files := fun p => if left p then s.files p else none }
  | .fs _, _ => s
  | .file c, r =>
    let s' := s.fileStore.next c r
    { s with files := s'.files, file := s'.file }

def env : Env FlashCall.Ans ExtFlash := ⟨allows, next⟩

/-- The counter that is stored under a path. -/
def counter (s : ExtFlash) (fname : String) : Nat := s.fileStore.counter fname

end ExtFlash

/-- The calls of `nor_storage_init`. -/
def fsCalls : Embedding FsCall.Ans FlashCall.Ans := ⟨.fs, fun _ => Equiv.refl _⟩

/-- The calls of `nor_storage_increment`. -/
def fileCalls : Embedding FileCall.Ans FlashCall.Ans := ⟨.file, fun _ => Equiv.refl _⟩

/-- Making a directory changes what `nor_storage_init` sees as it does for itself. -/
theorem ExtFlash.storage_fsMkdir (s : ExtFlash) (path : String) (r : Int) :
    (s.next (.fs (.fsMkdir path)) r).storage = s.storage.next (.fsMkdir path) r := by
  dsimp only [next, Storage.next]
  split
  · simp [storage, Bool.or_assoc]
  · rfl

/-- So does an erasure. -/
theorem ExtFlash.storage_flashAreaErase (s : ExtFlash) (pfa : FlashArea) (off len : Nat)
    (r : Int × (String → Bool)) :
    (s.next (.fs (.flashAreaErase pfa off len)) r).storage =
      s.storage.next (.flashAreaErase pfa off len) r := by
  refine congrArg Storage.mk (funext fun p => ?_)
  dsimp only [next, storage]
  by_cases hleft : (decide (r.1 < 0) && r.2 p) = true
  · rw [if_pos hleft, hleft, Bool.true_and, Bool.true_and]
  · rw [if_neg hleft, (Bool.not_eq_true _).mp hleft]
    rfl

/-- `nor_storage_init` sees which paths are there. -/
theorem fsView : View ExtFlash.env Storage.env fsCalls ExtFlash.storage := by
  refine ⟨?_, ?_⟩
  · intro s c r hr
    cases c with
    | fsMkdir path => trivial
    | _ => exact hr
  intro s c r
  cases c with
  | fsMkdir path => exact s.storage_fsMkdir path r
  | flashAreaErase pfa off len => exact s.storage_flashAreaErase pfa off len r
  | _ => rfl

/-- `nor_storage_increment` sees the contents of the files. -/
theorem fileView : View ExtFlash.env FileStore.env fileCalls ExtFlash.fileStore := by
  refine ⟨?_, fun _ _ _ => rfl⟩
  intro s c r hr
  cases c with
  | fsOpen fname flags => exact hr.1
  | _ => exact hr

/-! ## The sample -/

def bootCountPath : String := "/lfs/boot_count"

/-- `main`; `wipe` is `IS_ENABLED(CONFIG_APP_WIPE_STORAGE)`. -/
def extFlashMain (wipe : Bool) (mp : FsMount) : Prog FlashCall.Ans Int := do
  let err ← (norStorageInit wipe mp).embed fsCalls
  if err < 0 then
    return err
  (norStorageIncrement bootCountPath).embed fileCalls

/-! ## A boot -/

/-- The flash area is erased, or its erasure fails. -/
def isWipe : Event FlashCall.Ans → Bool
  | ⟨.fs (.flashAreaErase _ _ _), _⟩ => true
  | _ => false

/-- The byte of the counter is stored. -/
def countsBoot : Event FlashCall.Ans → Bool
  | ⟨.file (.fsWrite _), r⟩ => decide (r = (1 : Int))
  | _ => false

/-- `fs_stat` fails. -/
def FlashStatFailed : Event FlashCall.Ans → Prop
  | ⟨.fs c, r⟩ => StatFailed ⟨c, r⟩
  | _ => False

/-- What a boot comes to: the counter goes up by one if its byte is stored, from 0 if the boot wiped
the flash, and only a boot that did not find the marker wipes it. -/
structure FlashBootPost (s : ExtFlash) (t : List (Event FlashCall.Ans)) (ret : Int)
    (s' : ExtFlash) : Prop where
  kept : t.any isWipe = false →
    s'.counter bootCountPath = (s.counter bootCountPath + (t.any countsBoot).toNat) % 256
  wiped : t.any isWipe = true → ret = 0 →
    s'.counter bootCountPath = (t.any countsBoot).toNat
  missed : t.any isWipe = true → ∃ e ∈ t, FlashStatFailed e
  marked : ret = 0 → s'.storage.Marked
  keeps : s.storage.Marked → t.any isWipe = false → s'.storage.Marked

section
variable {mp : FsMount} {s s' : ExtFlash}

/-- A boot wipes the flash when its initialisation erases. -/
theorem any_isWipe_fs (u : List (Event FsCall.Ans)) :
    (u.map fsCalls.event).any isWipe = true ↔ Erases u := by
  rw [List.any_map, List.any_eq_true, Erases]
  refine exists_congr ?_
  rintro ⟨c, r⟩
  refine and_congr_right fun _ => ?_
  cases c with
  | flashAreaErase pfa off len => exact iff_of_true rfl trivial
  | _ => exact iff_of_false Bool.false_ne_true id

/-- The increment wipes nothing. -/
theorem any_isWipe_file (u : List (Event FileCall.Ans)) :
    (u.map fileCalls.event).any isWipe = false := by
  rw [List.any_map, List.any_eq_false]
  exact fun _ _ => Bool.false_ne_true

/-- The initialisation counts nothing. -/
theorem any_countsBoot_fs (u : List (Event FsCall.Ans)) :
    (u.map fsCalls.event).any countsBoot = false := by
  rw [List.any_map, List.any_eq_false]
  exact fun _ _ => Bool.false_ne_true

/-- A boot is counted when its increment stores the byte. -/
theorem any_countsBoot_file (u : List (Event FileCall.Ans)) :
    (u.map fileCalls.event).any countsBoot = true ↔ Stores u := by
  rw [List.any_map, List.any_eq_true]
  constructor
  · rintro ⟨⟨c, r⟩, he, hcounts⟩
    cases c with
    | fsWrite data =>
      obtain rfl : r = (1 : Int) := of_decide_eq_true hcounts
      exact ⟨data, he⟩
    | _ => exact absurd hcounts Bool.false_ne_true
  · rintro ⟨data, he⟩
    exact ⟨_, he, rfl⟩

/-- A call of the initialisation, made on the whole flash. -/
theorem wp_embed_fsCalls {c : FsCall} {k : c.Ans → Prog FsCall.Ans Int}
    {Q : List (Event FlashCall.Ans) → Int → ExtFlash → Prop} :
    wp ExtFlash.env ((Prog.call c k).embed fsCalls) Q s ↔
      ∀ r : c.Ans, ExtFlash.env.allows s (.fs c) r →
        wp ExtFlash.env ((k r).embed fsCalls) (fun t => Q (⟨.fs c, r⟩ :: t)) (s.next (.fs c) r) :=
  Iff.rfl

/-- Making a directory leaves the files. -/
theorem ExtFlash.files_fsMkdir (s : ExtFlash) (path : String) (r : Int) :
    (s.next (.fs (.fsMkdir path)) r).files = s.files := by
  dsimp only [next]
  split
  · rfl
  · rfl

/-- The wiping leaves no file if it succeeds, and all of them if the area is not erased. -/
theorem wp_norStorageInit_files (mp : FsMount) (s : ExtFlash) :
    wp ExtFlash.env ((norStorageInit true mp).embed fsCalls) (fun t err s' => err ≤ 0 ∧
      (t.any isWipe = false → s'.files = s.files) ∧
        (t.any isWipe = true → err = 0 → s'.files = fun _ => none)) s := by
  simp only [norStorageInit, littlefsFlashErase, fsStatvfs, fsStat, flashAreaOpen, flashAreaErase,
    flashAreaClose, fsMkdir, Prog.perform_bind, Prog.call_bind, wp_embed_fsCalls]
  intro sv _ err _
  by_cases herr : err = 0
  · simp only [ne_eq, herr, not_true_eq_false, if_false]
    exact ⟨Int.le_refl 0, fun _ => rfl, fun h => absurd h Bool.false_ne_true⟩
  · simp only [ne_eq, herr, not_false_eq_true, if_true, wp_embed_fsCalls]
    rintro ⟨rc, pfa⟩ -
    by_cases hrc : rc < 0
    · simp only [hrc, if_true, Prog.pure_eq, Prog.ret_bind]
      exact ⟨Int.le_of_lt hrc, fun _ => rfl, fun h => absurd h Bool.false_ne_true⟩
    · simp only [hrc, if_false, Prog.call_bind, Prog.pure_eq, Prog.ret_bind, wp_embed_fsCalls]
      rintro ⟨e, left⟩ - ⟨⟩ -
      by_cases he : e < 0
      · -- some of the paths may be left, and the error is passed on
        simp only [he, if_true]
        exact ⟨Int.le_of_lt he, fun h => absurd h.symm Bool.false_ne_true,
          fun _ h => absurd h (Int.ne_of_lt he)⟩
      · have hnone : (s.next (.fs (.flashAreaErase pfa 0 pfa.faSize)) (e, left)).files =
            fun _ => none := by
          funext p
          simp [ExtFlash.next, he]
        simp only [he, if_false, wp_embed_fsCalls]
        intro m hm
        have hfiles := (ExtFlash.files_fsMkdir
          (s.next (.fs (.flashAreaErase pfa 0 pfa.faSize)) (e, left))
          NOR_STORAGE_ERASED_ON_BOOT m).trans hnone
        by_cases hm0 : m = 0
        · simp only [hm0, not_true_eq_false, if_false]
          subst hm0
          exact ⟨Int.le_refl 0, fun h => absurd h.symm Bool.false_ne_true, fun _ _ => hfiles⟩
        · simp only [hm0, not_false_eq_true, if_true]
          exact ⟨hm, fun h => absurd h.symm Bool.false_ne_true, fun _ _ => hfiles⟩

/-- A file that is there stays there. -/
theorem FileStore.isSome_next (s : FileStore) (c : FileCall) (r : c.Ans) {p : String}
    (hp : (s.files p).isSome = true) : ((s.next c r).files p).isSome = true := by
  have hput (fname : String) (bytes : List UInt8) (pos : Nat) :
      ((s.put fname bytes pos).files p).isSome = true := by
    dsimp only [put]
    split
    · rfl
    · exact hp
  cases c with
  | fsOpen fname flags =>
    dsimp only [next]
    split
    · exact hp
    · exact hput _ _ _
  | fsWrite data =>
    dsimp only [next]
    split
    · exact hp
    · split
      · exact hput _ _ _
      · exact hp
  | _ =>
    dsimp only [next]
    split
    · exact hp
    · exact hp

/-- The increment leaves the paths that are present. -/
theorem present_norStorageIncrement {t : List (Event FlashCall.Ans)} {ret : Int} {p : String}
    (h : Exec ExtFlash.env s ((norStorageIncrement bootCountPath).embed fileCalls) t ret s')
    (hp : s.storage.present p = true) : s'.storage.present p = true := by
  refine h.embed_keeps (F := fun s => s.storage.present p = true) ?_ hp
  intro s c r hp
  rcases (Bool.or_eq_true _ _).mp hp with hdir | hfile
  · exact (Bool.or_eq_true _ _).mpr (.inl hdir)
  · exact (Bool.or_eq_true _ _).mpr (.inr (s.fileStore.isSome_next c r hfile))

/-- The counter depends on the files alone. -/
theorem ExtFlash.counter_congr {fname : String} (h : s'.files = s.files) :
    s'.counter fname = s.counter fname := by
  simp only [counter, fileStore, FileStore.counter, h]

/-- Without any files it is 0. -/
theorem ExtFlash.counter_of_none {fname : String} (h : s.files = fun _ => none) :
    s.counter fname = 0 := counter_of_missing (congrFun h fname)

/-- It is a byte. -/
theorem ExtFlash.counter_lt (s : ExtFlash) (fname : String) : s.counter fname < 256 :=
  NrfFeather.counter_lt _ _

/-- The flash is wiped only after `fs_stat` has failed. -/
theorem InitPost.missed {u : List (Event FsCall.Ans)} {err : Int} {m m' : Storage}
    (h : InitPost m u err m') (hwipe : (u.map fsCalls.event).any isWipe = true) :
    ∃ e ∈ u.map fsCalls.event, FlashStatFailed e := by
  obtain ⟨⟨e, he, hstat⟩, -⟩ := h.erases_iff.1 ((any_isWipe_fs u).1 hwipe)
  exact ⟨fsCalls.event e, List.mem_map_of_mem he, hstat⟩

/-- An initialisation that wipes nothing keeps the marker. -/
theorem InitPost.marked_of_any {u : List (Event FsCall.Ans)} {err : Int} {m m' : Storage}
    (h : InitPost m u err m') (hm : m.Marked) (hwipe : (u.map fsCalls.event).any isWipe = false) :
    m'.Marked := by
  refine h.keeps hm fun herases => ?_
  rw [(any_isWipe_fs u).2 herases] at hwipe
  cases hwipe

/-- The increment counts the boot exactly if its byte is stored. -/
theorem IncrementPost.counter_eq {v : List (Event FileCall.Ans)} {ret : Int} {f f' : FileStore}
    {fname : String} (h : IncrementPost fname f v ret f') :
    f'.counter fname =
      (f.counter fname + ((v.map fileCalls.event).any countsBoot).toNat) % 256 := by
  by_cases hstores : Stores v
  · rw [(any_countsBoot_file v).2 hstores]
    exact h.stored hstores
  · rw [Bool.eq_false_iff.2 fun hany => hstores ((any_countsBoot_file v).1 hany)]
    exact (h.kept hstores).trans (Nat.mod_eq_of_lt (counter_lt f fname)).symm

/-- Each boot comes to what `FlashBootPost` says. -/
theorem wp_extFlashMain (mp : FsMount) (s : ExtFlash) :
    wp ExtFlash.env (extFlashMain true mp) (FlashBootPost s) s := by
  rw [extFlashMain, wp_bind]
  have hinit := fsView.wp (wp_norStorageInit mp s.storage)
    (Q := fun t err s' => ∃ u, t = u.map fsCalls.event ∧ InitPost s.storage u err s'.storage)
    fun u err s' _ h => ⟨u, rfl, h⟩
  refine wp_mono ?_ (wp_and hinit (wp_norStorageInit_files mp s))
  rintro _ err s₁ ⟨⟨u, rfl, hpost⟩, herr, hfiles, hwiped⟩
  split
  · next hneg =>
    refine ⟨?_, fun _ h => absurd h (Int.ne_of_lt hneg), ?_, fun h => absurd h (Int.ne_of_lt hneg),
      ?_⟩
    · intro he
      rw [List.append_nil] at he ⊢
      rw [any_countsBoot_fs, ExtFlash.counter_congr (hfiles he)]
      exact (Nat.mod_eq_of_lt (s.counter_lt _)).symm
    · rw [List.append_nil]
      exact hpost.missed
    · rw [List.append_nil]
      exact hpost.marked_of_any
  · next hneg =>
    obtain rfl : err = 0 := by omega
    refine fileView.wp (wp_norStorageIncrement bootCountPath s₁.fileStore) ?_
    intro v ret s' hx hinc
    have hwipes : (u.map fsCalls.event ++ v.map fileCalls.event).any isWipe =
        (u.map fsCalls.event).any isWipe := by
      rw [List.any_append, any_isWipe_file, Bool.or_false]
    have hcount : s'.counter bootCountPath = (s₁.counter bootCountPath +
        ((u.map fsCalls.event ++ v.map fileCalls.event).any countsBoot).toNat) % 256 := by
      rw [List.any_append, any_countsBoot_fs, Bool.false_or]
      exact hinc.counter_eq
    refine ⟨?_, ?_, ?_, ?_, ?_⟩
    · intro he
      rw [hcount, ExtFlash.counter_congr (hfiles (hwipes ▸ he))]
    · intro he _
      rw [hcount, ExtFlash.counter_of_none (hwiped (hwipes ▸ he) rfl), Nat.zero_add]
      exact Nat.mod_eq_of_lt (Nat.lt_of_le_of_lt (Bool.toNat_le _) (by decide))
    · intro he
      obtain ⟨e, he, hstat⟩ := hpost.missed (hwipes ▸ he)
      exact ⟨e, List.mem_append_left _ he, hstat⟩
    · exact fun _ => present_norStorageIncrement hx (hpost.success rfl)
    · exact fun hs he => present_norStorageIncrement hx (hpost.marked_of_any hs (hwipes ▸ he))

end

/-! ## Runs of boots -/

/-- One boot of the sample. -/
abbrev FlashBoot : Type := Called FlashCall.Ans ExtFlash Int

/-- A run of boots of a build that wipes. -/
abbrev FlashBoots (mp : FsMount) : ExtFlash → List FlashBoot → ExtFlash → Prop :=
  Run (CallStep ExtFlash.env (extFlashMain true mp))

/-- The boot erased the flash area. -/
def FlashBoot.wiped (b : FlashBoot) : Bool := b.trace.any isWipe

/-- The boots in a list that counted themselves. -/
def counted (bs : List FlashBoot) : Nat := bs.countP fun b => b.trace.any countsBoot

/-- In no boot does `fs_stat` fail on a marker that is there. -/
def MarkerFound (bs : List FlashBoot) : Prop :=
  ∀ b ∈ bs, b.before.storage.Marked → ∀ e ∈ b.trace, ¬ FlashStatFailed e

/-- A boot adds one if it stores its byte. -/
theorem counted_cons {b : FlashBoot} {bs : List FlashBoot} :
    counted (b :: bs) = counted bs + (b.trace.any countsBoot).toNat := by
  rw [counted, counted, List.countP_cons]
  cases b.trace.any countsBoot with
  | false => rfl
  | true => rfl

/-- With the marker there nothing is wiped, and every boot that stores its byte is counted. -/
theorem FlashBoots.counter_of_marked {mp : FsMount} {s s' : ExtFlash} {bs : List FlashBoot}
    (h : FlashBoots mp s bs s') (hfound : MarkerFound bs) (hs : s.storage.Marked) :
    (∀ b ∈ bs, b.wiped = false) ∧
      s'.counter bootCountPath = (s.counter bootCountPath + counted bs) % 256 := by
  induction h with
  | nil s => exact ⟨List.forall_mem_nil _, (Nat.mod_eq_of_lt (s.counter_lt _)).symm⟩
  | @cons s _ _ b bs hb _ ih =>
    have hpost := hb.post (wp_extFlashMain mp)
    obtain ⟨rfl, rfl, -⟩ := hb
    obtain ⟨hhead, hfound⟩ := List.forall_mem_cons.1 hfound
    have hwiped : b.wiped = false := by
      refine Bool.eq_false_iff.2 fun hw => ?_
      obtain ⟨e, he, hstat⟩ := hpost.missed hw
      exact hhead hs e he hstat
    obtain ⟨hnone, hcount⟩ := ih hfound (hpost.keeps hs hwiped)
    refine ⟨List.forall_mem_cons.2 ⟨hwiped, hnone⟩, ?_⟩
    rw [hcount, hpost.kept hwiped, counted_cons]
    omega

/-- After a boot that succeeds, and as long as `fs_stat` does not fail on the marker, the flash is
not wiped again, and the counter counts, up to a byte, the boots that stored it, from the one that
wiped the flash or from what was there. -/
theorem boot_count_since_wipe {mp : FsMount} {s s' : ExtFlash} {bs₁ bs₂ : List FlashBoot}
    {b : FlashBoot} (h : FlashBoots mp s (bs₁ ++ b :: bs₂) s') (hb : b.ret = 0)
    (hfound : MarkerFound bs₂) :
    (∀ c ∈ bs₂, c.wiped = false) ∧
      s'.counter bootCountPath = ((if b.wiped then 0 else b.before.counter bootCountPath) +
        counted (b :: bs₂)) % 256 := by
  obtain ⟨u, -, hrest⟩ := h.append_inv
  cases hrest with
  | cons hstep hrest =>
    have hpost := hstep.post (wp_extFlashMain mp)
    obtain ⟨rfl, rfl, -⟩ := hstep
    obtain ⟨hnone, hcount⟩ := FlashBoots.counter_of_marked hrest hfound (hpost.marked hb)
    refine ⟨hnone, hcount.trans ?_⟩
    rw [counted_cons]
    by_cases hw : b.wiped = true
    · rw [if_pos hw, hpost.wiped hw hb]
      omega
    · rw [if_neg hw, hpost.kept (Bool.eq_false_iff.2 hw)]
      omega

/-- Nothing is on the flash. -/
def ExtFlash.empty : ExtFlash := ⟨fun _ => false, fun _ => none, none⟩

/-- An increment that finds `data` and stores `n`. -/
def countTrace (data : List UInt8) (n : UInt8) : List (Event FlashCall.Ans) :=
  [⟨.file (.fsOpen bootCountPath (FS_O_CREATE ||| FS_O_RDWR)), (0 : Int)⟩,
    ⟨.file (.fsRead 1), ((data.length : Int), data)⟩, ⟨.file (.fsSeek 0), (0 : Int)⟩,
    ⟨.file (.fsWrite [n]), (1 : Int)⟩, ⟨.file .fsClose, (0 : Int)⟩]

/-- The first boot of an empty flash. -/
def flashBoot₁ : FlashBoot :=
  let wiping : List (Event FsCall.Ans) :=
    wipeTrace lfsMount 0 (-ENOENT) (0, lfsArea) (0, fun _ => false) ++
      [⟨.fsMkdir NOR_STORAGE_ERASED_ON_BOOT, (0 : Int)⟩]
  let trace := wiping.map fsCalls.event ++ countTrace [] 1
  ⟨.empty, trace, 0, ExtFlash.env.after .empty trace⟩

/-- A boot that finds the marker and the counter. -/
def flashBoot₂ : FlashBoot :=
  let trace : List (Event FlashCall.Ans) :=
    ⟨.fs (.fsStatvfs lfsMount.mntPoint), (0 : Int)⟩ ::
      ⟨.fs (.fsStat NOR_STORAGE_ERASED_ON_BOOT), (0 : Int)⟩ :: countTrace [1] 2
  ⟨flashBoot₁.after, trace, 0, ExtFlash.env.after flashBoot₁.after trace⟩

/-- An increment that finds `data`. -/
theorem exec_countTrace {s : ExtFlash} {data : List UInt8} (hdir : s.dirs bootCountPath = false)
    (hfile : (s.files bootCountPath).getD [] = data) (hlen : data.length ≤ 1) :
    Exec ExtFlash.env s ((norStorageIncrement bootCountPath).embed fileCalls)
      (countTrace data (data.headD 0 + 1)) 0
      (ExtFlash.env.after s (countTrace data (data.headD 0 + 1))) := by
  have hcreate : (FS_O_CREATE ||| FS_O_RDWR) &&& FS_O_CREATE ≠ 0 := by decide
  have hopened : (s.fileStore.put bootCountPath ((s.files bootCountPath).getD []) 0).opened =
      some (data, 0) := by
    rw [FileStore.opened_put, hfile]
  refine .call ⟨fun _ _ => hcreate, fun h => absurd h (Bool.eq_false_iff.1 hdir)⟩ ?_
  refine .call (fun _ => ⟨data, 0, hopened, ?_, rfl⟩) ?_
  · exact (List.take_of_length_le hlen).symm
  · match data, hlen with
    | [], _ => exact .call trivial (.call (Int.le_refl 1) (.call trivial .ret))
    | [_], _ => exact .call trivial (.call (Int.le_refl 1) (.call trivial .ret))

/-- The first boot wipes the flash and stores a 1. -/
theorem flashBoot₁_step : CallStep ExtFlash.env (extFlashMain true lfsMount) .empty flashBoot₁
    flashBoot₁.after := by
  refine ⟨rfl, rfl, ?_⟩
  have hstat : (-ENOENT : Int) = 0 → ExtFlash.empty.storage.present NOR_STORAGE_ERASED_ON_BOOT :=
    nofun
  refine .call trivial (.call hstat ?_)
  refine .call trivial <| .call trivial <| .call trivial <| .call (Int.le_refl 0) ?_
  exact exec_countTrace (by decide) (by decide) (by decide)

/-- The second one stores a 2. -/
theorem flashBoot₂_step : CallStep ExtFlash.env (extFlashMain true lfsMount) flashBoot₁.after
    flashBoot₂ flashBoot₂.after := by
  refine ⟨rfl, rfl, ?_⟩
  have hmarked : flashBoot₁.after.storage.present NOR_STORAGE_ERASED_ON_BOOT = true := by decide
  refine .call trivial (.call (fun _ => hmarked) ?_)
  exact exec_countTrace (by decide) (by decide) (by decide)

/-- The counter is 2 after these boots. -/
theorem boot_count_since_wipe_twice :
    (∀ c ∈ [flashBoot₂], c.wiped = false) ∧ flashBoot₂.after.counter bootCountPath = 2 := by
  have hrun : FlashBoots lfsMount .empty ([] ++ flashBoot₁ :: [flashBoot₂]) flashBoot₂.after :=
    .cons flashBoot₁_step (.cons flashBoot₂_step (.nil _))
  have hfound : MarkerFound [flashBoot₂] := by
    refine List.forall_mem_singleton.2 fun _ => ?_
    simp [flashBoot₂, countTrace, FlashStatFailed, StatFailed]
  obtain ⟨hnone, hcount⟩ := boot_count_since_wipe hrun rfl hfound
  exact ⟨hnone, hcount.trans (by decide)⟩

end NrfFeather
