import NrfFeather.Lib.Calls
import NrfFeather.Lib.Ledger
import NrfFeather.Zephyr

/-!
# The boot counter

`nor_storage_increment` of `samples/external_flash/src/main.c` reads a byte from a file, which is
created where it is missing, and writes it back incremented. An error of `fs_write` is passed on,
but a write that is cut short is not noticed: it stores nothing, and 0 is returned. The byte wraps
after 255.
-/

namespace NrfFeather

open Effects Transition Resources

/-! ## The file system -/

def FS_O_RDWR : BitVec 8 := 0x03
def FS_O_CREATE : BitVec 8 := 0x10

/-- The calls on a file; all but `fs_open` are on the `file` that was opened, and `fs_seek` is from
the start of it. -/
inductive FileCall where
  | fsOpen (fname : String) (flags : BitVec 8)
  | fsRead (size : Nat)
  | fsSeek (offset : Nat)
  | fsWrite (data : List UInt8)
  | fsClose
  deriving DecidableEq

/-- A negative code, or the number of bytes; a read also delivers these. -/
@[reducible] def FileCall.Ans : FileCall → Type
  | .fsRead _ => Int × List UInt8
  | _ => Int

/-- The call succeeded. -/
def FileCall.Ok : (c : FileCall) → c.Ans → Prop
  | .fsRead _, r => 0 ≤ r.1
  | .fsOpen _ _, r | .fsSeek _, r | .fsWrite _, r | .fsClose, r => (0 : Int) ≤ r

/-- The contents of the files, and the open file with its position. -/
structure FileStore where
  files : String → Option (List UInt8)
  file : Option (String × Nat)

namespace FileStore

/-- The contents of the open file, and the position. -/
def opened (s : FileStore) : Option (List UInt8 × Nat) := do
  let (fname, pos) ← s.file
  let bytes ← s.files fname
  return (bytes, pos)

/-- The file holds `bytes`, and is open at `pos`. -/
def put (s : FileStore) (fname : String) (bytes : List UInt8) (pos : Nat) : FileStore where
  files name := if name = fname then some bytes else s.files name
  file := some (fname, pos)

def seek (s : FileStore) (pos : Nat) : FileStore :=
  { s with file := s.file.map fun f => (f.1, pos) }

/-- Every call may fail. A file that is missing is opened only to be created. A read delivers the
bytes from the position on, up to its size or the end of the file, and a write stores no more than
it is given. -/
def allows (s : FileStore) : (c : FileCall) → c.Ans → Prop
  | .fsOpen fname flags, r => (0 : Int) ≤ r → s.files fname = none → flags &&& FS_O_CREATE ≠ 0
  | .fsRead size, r => 0 ≤ r.1 → ∃ bytes pos, s.opened = some (bytes, pos) ∧
      r.2 = (bytes.drop pos).take size ∧ r.1 = r.2.length
  | .fsWrite data, r => r ≤ data.length
  | _, _ => True

/-- A failed call changes nothing; of a write, as many bytes are stored as it reports. -/
def next (s : FileStore) : (c : FileCall) → c.Ans → FileStore
  | .fsOpen fname _, r => if r < 0 then s else s.put fname ((s.files fname).getD []) 0
  | .fsRead _, r => if r.1 < 0 then s else
    { s with file := s.file.map fun f => (f.1, f.2 + r.2.length) }
  | .fsSeek offset, r => if r < 0 then s else s.seek offset
  | .fsWrite data, r => if r < 0 then s else
    match s.file, s.opened with
    | some (fname, _), some (bytes, pos) =>
      s.put fname (bytes.take pos ++ data.take r.toNat ++ bytes.drop (pos + r.toNat))
        (pos + r.toNat)
    | _, _ => s
  | .fsClose, r => if r < 0 then s else { s with file := none }

def env : Env FileCall.Ans FileStore := ⟨allows, next⟩

/-- The stored counter; that of a missing or empty file is 0. -/
def counter (s : FileStore) (fname : String) : Nat :=
  (((s.files fname).getD []).headD 0).toNat

end FileStore

/-! ## The increment -/

def fsOpen (fname : String) (flags : BitVec 8) : Prog FileCall.Ans Int :=
  .perform (FileCall.fsOpen fname flags)

def fsRead (size : Nat) : Prog FileCall.Ans (Int × List UInt8) := .perform (FileCall.fsRead size)

def fsSeek (offset : Nat) : Prog FileCall.Ans Int := .perform (FileCall.fsSeek offset)

def fsWrite (data : List UInt8) : Prog FileCall.Ans Int := .perform (FileCall.fsWrite data)

def fsClose : Prog FileCall.Ans Int := .perform FileCall.fsClose

/-- The part of `nor_storage_increment` that works on the open file; its result is the `rc` with
which `out` is reached. -/
def norStorageUpdate : Prog FileCall.Ans Int := do
  let bootCount : UInt8 := 0
  let (rc, data) ← fsRead 1
  if rc < 0 then
    return rc
  -- at the end of the file nothing is read, and `boot_count` is as it was
  let bootCount := data.headD bootCount
  let rc ← fsSeek 0
  if rc < 0 then
    return rc
  let bootCount := bootCount + 1
  fsWrite [bootCount]

def norStorageIncrement (fname : String) : Prog FileCall.Ans Int := do
  let rc ← fsOpen fname (FS_O_CREATE ||| FS_O_RDWR)
  if rc < 0 then
    return rc
  let rc ← norStorageUpdate
  let ret ← fsClose
  if ret < 0 then
    return ret
  return if rc < 0 then rc else 0

/-! ## What a call does -/

/-- An `fs_open` that succeeds hands out the file, and `fs_close` gives it back. -/
def fileLedger : Ledger (Event FileCall.Ans) Unit Unit where
  acquires
    | ⟨.fsOpen _ _, r⟩ => if 0 ≤ r then some () else none
    | _ => none
  releases
    | ⟨.fsClose, _⟩ => some ((), ())
    | _ => none
  Uses
    | _, ⟨.fsRead _, _⟩ | _, ⟨.fsSeek _, _⟩ | _, ⟨.fsWrite _, _⟩ => True
    | _, _ => False
  home _ := ()

/-- No call to the file system failed. -/
def Faultless (t : List (Event FileCall.Ans)) : Prop := ∀ e ∈ t, e.1.Ok e.2

/-- A call up to the write failed. -/
def FailsByWrite (t : List (Event FileCall.Ans)) : Prop := ∃ e ∈ t, e.1 ≠ .fsClose ∧ ¬ e.1.Ok e.2

/-- The byte was stored. -/
def Stores (t : List (Event FileCall.Ans)) : Prop := ∃ data, ⟨.fsWrite data, (1 : Int)⟩ ∈ t

section
variable {fname : String} {bytes data : List UInt8} {pos : Nat} {s s' : FileStore}
  {t u : List (Event FileCall.Ans)} {rc : Int}

/-- A trace is without fault when its first call and the rest are. -/
theorem faultless_cons {e : Event FileCall.Ans} :
    Faultless (e :: t) ↔ e.1.Ok e.2 ∧ Faultless t := List.forall_mem_cons

/-- A trace stores the byte with its first call or later. -/
theorem stores_cons {e : Event FileCall.Ans} :
    Stores (e :: t) ↔ (∃ data, e = ⟨.fsWrite data, (1 : Int)⟩) ∨ Stores t := by
  simp only [Stores, List.mem_cons, exists_or, eq_comm]

namespace FileStore

/-- A file that was put is open. -/
@[simp] theorem opened_put : (s.put fname bytes pos).opened = some (bytes, pos) := by
  simp [opened, put]

/-- The last contents and position count. -/
theorem put_put {bytes' : List UInt8} {pos' : Nat} :
    (s.put fname bytes pos).put fname bytes' pos' = s.put fname bytes' pos' := by
  unfold put
  congr 1
  funext name
  dsimp only
  split <;> rfl

/-- The counter of a file is its first byte. -/
@[simp] theorem counter_put : (s.put fname bytes pos).counter fname = (bytes.headD 0).toNat := by
  simp [counter, put]

/-- What `fs_write` does to an open file. -/
theorem next_fsWrite {r : Int} (hr : 0 ≤ r) :
    (s.put fname bytes pos).next (.fsWrite data) r = s.put fname
      (bytes.take pos ++ data.take r.toNat ++ bytes.drop (pos + r.toNat)) (pos + r.toNat) := by
  refine (if_neg (Int.not_lt.2 hr)).trans ?_
  rw [opened_put]
  exact put_put

end FileStore

/-- What the part that works on the open file comes to when the counter is `n`: it is the next one
if the byte was stored, and otherwise as before. -/
structure UpdatePost (fname : String) (n : Nat) (t : List (Event FileCall.Ans)) (rc : Int)
    (s' : FileStore) : Prop where
  silent : ∀ e ∈ t, fileLedger.Silent e
  ok : 0 ≤ rc ↔ Faultless t
  stored : Stores t → s'.counter fname = (n + 1) % 256
  kept : ¬ Stores t → s'.counter fname = n
  failed : rc < 0 → ¬ Stores t

/-- A call other than the write that succeeds. -/
theorem UpdatePost.cons {n : Nat} {e : Event FileCall.Ans}
    (hsilent : fileLedger.Silent e) (hok : e.1.Ok e.2)
    (hwrite : ∀ data, e ≠ ⟨.fsWrite data, (1 : Int)⟩) (h : UpdatePost fname n t rc s') :
    UpdatePost fname n (e :: t) rc s' := by
  have hstores : Stores (e :: t) ↔ Stores t :=
    stores_cons.trans (or_iff_right fun ⟨data, hdata⟩ => hwrite data hdata)
  refine ⟨List.forall_mem_cons.2 ⟨hsilent, h.silent⟩, ?_, ?_, ?_, ?_⟩
  · rw [h.ok, faultless_cons, and_iff_right hok]
  · rw [hstores]
    exact h.stored
  · rw [hstores]
    exact h.kept
  · rw [hstores]
    exact h.failed

/-- A call that fails is the last one. -/
theorem UpdatePost.fail {n : Nat} {e : Event FileCall.Ans}
    (hsilent : fileLedger.Silent e) (hok : ¬ e.1.Ok e.2)
    (hwrite : ∀ data, e ≠ ⟨.fsWrite data, (1 : Int)⟩) (hrc : rc < 0)
    (hs : s'.counter fname = n) : UpdatePost fname n [e] rc s' := by
  have hstores : ¬ Stores [e] := by
    rintro ⟨data, hdata⟩
    exact hwrite data (List.mem_singleton.1 hdata).symm
  refine ⟨List.forall_mem_singleton.2 hsilent, iff_of_false (Int.not_le.2 hrc) ?_, ?_, ?_, ?_⟩
  · exact fun h => hok (h e (.head _))
  · exact fun h => absurd h hstores
  · exact fun _ => hs
  · exact fun _ => hstores

/-- The write stores the incremented byte or does not. -/
theorem UpdatePost.write {r : Int} (hr : r ≤ 1) :
    UpdatePost fname (bytes.headD 0).toNat [⟨.fsWrite [bytes.headD 0 + 1], r⟩] r
      ((s.put fname bytes 0).next (.fsWrite [bytes.headD 0 + 1]) r) := by
  rcases Int.lt_or_le r 0 with hneg | hpos
  · have hnext : (s.put fname bytes 0).next (.fsWrite [bytes.headD 0 + 1]) r =
        s.put fname bytes 0 := if_pos hneg
    rw [hnext]
    refine .fail ⟨rfl, rfl⟩ (Int.not_le.2 hneg) ?_ hneg FileStore.counter_put
    rintro data ⟨⟩
    omega
  · have hok : Faultless [⟨.fsWrite [bytes.headD 0 + 1], r⟩] := List.forall_mem_singleton.2 hpos
    rw [FileStore.next_fsWrite hpos]
    rcases Int.lt_or_eq_of_le hr with hlt | rfl
    · obtain rfl : r = 0 := by omega
      have hstores : ¬ Stores [⟨.fsWrite [bytes.headD 0 + 1], (0 : Int)⟩] := by
        rintro ⟨data, hdata⟩
        cases List.mem_singleton.1 hdata
      refine ⟨List.forall_mem_singleton.2 ⟨rfl, rfl⟩, iff_of_true hpos hok, ?_, ?_, nofun⟩
      · exact fun h => absurd h hstores
      · simp
    · have hstores : Stores [⟨.fsWrite [bytes.headD 0 + 1], (1 : Int)⟩] := ⟨_, .head _⟩
      refine ⟨List.forall_mem_singleton.2 ⟨rfl, rfl⟩, iff_of_true hpos hok, ?_, ?_, nofun⟩
      · simp
      · exact fun h => absurd hstores h

/-- On a file that was opened, `nor_storage_increment` reads the counter and writes the next one,
unless a call fails before that. -/
theorem wp_norStorageUpdate (fname : String) (bytes : List UInt8) (s : FileStore) :
    wp FileStore.env norStorageUpdate (UpdatePost fname (bytes.headD 0).toNat)
      (s.put fname bytes 0) := by
  rw [norStorageUpdate, fsRead, Prog.perform_bind, wp_call]
  rintro ⟨rc, data⟩ hread
  dsimp only
  split
  · next hrc =>
    refine .fail ⟨rfl, rfl⟩ (Int.not_le.2 hrc) nofun hrc ?_
    exact (congrArg (FileStore.counter · fname) (if_pos hrc)).trans FileStore.counter_put
  · next hrc =>
    obtain ⟨bytes', pos, hopened, hdata, -⟩ := hread (Int.not_lt.1 hrc)
    rw [FileStore.opened_put] at hopened
    cases hopened
    have hcount : data.headD 0 = bytes.headD 0 := by
      have hdata : data = (bytes.drop 0).take 1 := hdata
      rw [hdata]
      cases bytes <;> rfl
    have hnext : FileStore.env.next (s.put fname bytes 0) (.fsRead 1) (rc, data) =
        s.put fname bytes (0 + data.length) := if_neg hrc
    rw [hnext, hcount, fsSeek, Prog.perform_bind, wp_call]
    intro rc' _
    split
    · next hrc' =>
      refine .cons ⟨rfl, rfl⟩ (Int.not_lt.1 hrc) nofun ?_
      refine .fail ⟨rfl, rfl⟩ (Int.not_le.2 hrc') nofun hrc' ?_
      exact (congrArg (FileStore.counter · fname) (if_pos hrc')).trans FileStore.counter_put
    · next hrc' =>
      have hnext' : FileStore.env.next (s.put fname bytes (0 + data.length)) (.fsSeek 0) rc' =
          s.put fname bytes 0 := if_neg hrc'
      rw [hnext', fsWrite, wp_perform]
      intro r hr
      refine .cons ⟨rfl, rfl⟩ (Int.not_lt.1 hrc) nofun ?_
      exact .cons ⟨rfl, rfl⟩ (Int.not_lt.1 hrc') nofun (.write hr)

/-! ## A call -/

/-- What a call of `nor_storage_increment` comes to. -/
structure IncrementPost (fname : String) (s : FileStore) (t : List (Event FileCall.Ans)) (ret : Int)
    (s' : FileStore) : Prop where
  closed : fileLedger.Settled t
  ok : ret = 0 ↔ Faultless t
  stored : Stores t → s'.counter fname = (s.counter fname + 1) % 256
  kept : ¬ Stores t → s'.counter fname = s.counter fname
  failed : FailsByWrite t → ¬ Stores t

/-- Closing the file leaves the counter. -/
theorem FileStore.counter_fsClose (s : FileStore) (r : Int) (fname : String) :
    (s.next .fsClose r).counter fname = s.counter fname := by
  show counter (if r < 0 then s else { s with file := none }) fname = s.counter fname
  split
  · rfl
  · rfl

/-- The file is opened, worked on, and closed. -/
theorem UpdatePost.increment {n : Nat} {r : Int} (h : UpdatePost fname n t rc s')
    (hn : s.counter fname = n) (hr : 0 ≤ r) (flags : BitVec 8) (c : Int) :
    IncrementPost fname s (⟨.fsOpen fname flags, r⟩ :: (t ++ [⟨.fsClose, c⟩]))
      (if c < 0 then c else if rc < 0 then rc else 0) (s'.next .fsClose c) := by
  have hstores : Stores (⟨.fsOpen fname flags, r⟩ :: (t ++ [⟨.fsClose, c⟩])) ↔ Stores t := by
    simp [Stores]
  have hclosed : fileLedger.ReleasedIn () (t ++ [⟨.fsClose, c⟩]) := by
    refine (Ledger.releasedIn_append_iff ?_).2 (Ledger.releasedIn_cons rfl nofun)
    exact fun e he => (h.silent e he).releases_ne
  have hacquires : ∀ e ∈ t ++ [⟨.fsClose, c⟩], fileLedger.acquires e = none :=
    List.forall_mem_append.2 ⟨fun e he => (h.silent e he).1, List.forall_mem_singleton.2 rfl⟩
  refine ⟨Ledger.settled_cons.2 ⟨fun _ _ => hclosed, Ledger.settled_of_acquires hacquires⟩,
    ?_, ?_, ?_, ?_⟩
  · have hall : Faultless (⟨.fsOpen fname flags, r⟩ :: (t ++ [⟨.fsClose, c⟩])) ↔
        Faultless t ∧ 0 ≤ c := by
      simp [Faultless, FileCall.Ok, hr, or_imp, forall_and]
    rw [hall, ← h.ok]
    split
    · omega
    · split
      · omega
      · omega
  · rw [hstores, FileStore.counter_fsClose, hn]
    exact h.stored
  · rw [hstores, FileStore.counter_fsClose, hn]
    exact h.kept
  · rw [hstores]
    rintro ⟨e, he, hne, hfail⟩
    rcases List.mem_cons.1 he with rfl | he
    · exact absurd hr hfail
    · rcases List.mem_append.1 he with he | he
      · exact h.failed (Int.not_le.1 fun hrc => hfail (h.ok.1 hrc e he))
      · exact absurd (congrArg Sigma.fst (List.mem_singleton.1 he)) hne

/-- Each call comes to what `IncrementPost` says. -/
theorem wp_norStorageIncrement (fname : String) (s : FileStore) :
    wp FileStore.env (norStorageIncrement fname) (IncrementPost fname s) s := by
  rw [norStorageIncrement, fsOpen, Prog.perform_bind, wp_call]
  intro r _
  split
  · next hr =>
    have hnext : FileStore.env.next s (.fsOpen fname (FS_O_CREATE ||| FS_O_RDWR)) r = s := if_pos hr
    rw [hnext]
    have hstores : ¬ Stores [⟨.fsOpen fname (FS_O_CREATE ||| FS_O_RDWR), r⟩] := by
      rintro ⟨data, hdata⟩
      cases List.mem_singleton.1 hdata
    refine ⟨Ledger.settled_of_acquires ?_, iff_of_false (by omega) ?_, ?_, fun _ => rfl,
      fun _ => hstores⟩
    · exact List.forall_mem_singleton.2 (if_neg (Int.not_le.2 hr))
    · exact fun h => absurd (h _ (.head _)) (Int.not_le.2 hr)
    · exact fun h => absurd h hstores
  · next hr =>
    have hnext : FileStore.env.next s (.fsOpen fname (FS_O_CREATE ||| FS_O_RDWR)) r =
        s.put fname ((s.files fname).getD []) 0 := if_neg hr
    rw [hnext, wp_bind]
    refine wp_mono ?_ (wp_norStorageUpdate fname ((s.files fname).getD []) s)
    intro t rc s' h
    rw [fsClose, Prog.perform_bind, wp_call]
    intro c _
    have hpost := h.increment rfl (Int.not_lt.1 hr) (FS_O_CREATE ||| FS_O_RDWR) c
    split
    · next hc =>
      rw [if_pos hc] at hpost
      exact hpost
    · next hc =>
      rw [if_neg hc] at hpost
      exact hpost

/-! ## Any number of calls -/

/-- A call of `nor_storage_increment`, as it was run. -/
abbrev Increment : Type := Called FileCall.Ans FileStore Int

/-- A run of calls. -/
abbrev Boots (fname : String) : FileStore → List Increment → FileStore → Prop :=
  Run (CallStep FileStore.env (norStorageIncrement fname))

/-- What is expected of the calls `cs` that led to `s'`: one that returns 0 has counted, one that
fails by the write has not, the file is closed once where it was opened, and if all return 0 then
the counter is their number. -/
structure Counts (fname : String) (cs : List Increment) (s' : FileStore) : Prop where
  next : ∀ c ∈ cs, c.ret = 0 → c.after.counter fname = c.before.counter fname + 1
  kept : ∀ c ∈ cs, FailsByWrite c.trace → c.after.counter fname = c.before.counter fname
  closed : ∀ c ∈ cs, fileLedger.Settled c.trace
  total : (∀ c ∈ cs, c.ret = 0) → s'.counter fname = cs.length

/-- Without a file the counter is 0. -/
theorem counter_of_missing (hs : s.files fname = none) : s.counter fname = 0 := by
  rw [FileStore.counter, hs]
  rfl

/-- When every call adds one, the run adds its length. -/
theorem Boots.counter_eq {cs : List Increment} (h : Boots fname s cs s')
    (hnext : ∀ c ∈ cs, c.after.counter fname = c.before.counter fname + 1) :
    s'.counter fname = s.counter fname + cs.length := by
  induction h with
  | nil s => rfl
  | cons hc _ ih =>
    obtain ⟨rfl, rfl, -⟩ := hc
    obtain ⟨h₀, hnext⟩ := List.forall_mem_cons.1 hnext
    rw [ih hnext, h₀, List.length_cons]
    omega

/-- The counter is a byte. -/
theorem counter_lt (s : FileStore) (fname : String) : s.counter fname < 256 := UInt8.toNat_lt _

/-- The counter is kept modulo 256. -/
theorem Boots.counter_mod {cs : List Increment} (h : Boots fname s cs s')
    (hstores : ∀ c ∈ cs, Stores c.trace) :
    s'.counter fname = (s.counter fname + cs.length) % 256 := by
  induction h with
  | nil s => exact (Nat.mod_eq_of_lt (counter_lt s fname)).symm
  | cons hc _ ih =>
    have hpost := hc.post (wp_norStorageIncrement fname)
    obtain ⟨h₀, hstores⟩ := List.forall_mem_cons.1 hstores
    rw [ih hstores, hpost.stored h₀, List.length_cons]
    omega

end

/-- In every run that starts without the file, and for every outcome of every call, the counter does
what is expected of it exactly if each call that no error stopped stored its byte and found a
counter below 255. -/
theorem boot_counter_counts_iff {fname : String} {s s' : FileStore} {cs : List Increment}
    (hs : s.files fname = none) (h : Boots fname s cs s') :
    Counts fname cs s' ↔
      ∀ c ∈ cs, Faultless c.trace → Stores c.trace ∧ c.before.counter fname < 255 := by
  have hpost := CallRun.post (wp_norStorageIncrement fname) h
  refine ⟨?_, ?_⟩
  · intro hcounts c hc hall
    have hnext := hcounts.next c hc ((hpost c hc).ok.2 hall)
    by_cases hstores : Stores c.trace
    · have hstored := (hpost c hc).stored hstores
      exact ⟨hstores, by omega⟩
    · have hkept := (hpost c hc).kept hstores
      omega
  · intro hcond
    have hnext : ∀ c ∈ cs, c.ret = 0 →
        c.after.counter fname = c.before.counter fname + 1 := by
      intro c hc hret
      obtain ⟨hstores, hlt⟩ := hcond c hc ((hpost c hc).ok.1 hret)
      rw [(hpost c hc).stored hstores, Nat.mod_eq_of_lt (by omega)]
    refine ⟨hnext, ?_, ?_, ?_⟩
    · exact fun c hc hfail => (hpost c hc).kept ((hpost c hc).failed hfail)
    · exact fun c hc => (hpost c hc).closed
    · intro hret
      rw [h.counter_eq fun c hc => hnext c hc (hret c hc), counter_of_missing hs, Nat.zero_add]

/-- No file is there. -/
def FileStore.empty : FileStore := ⟨fun _ => none, none⟩

/-- The calls of an increment that finds `data`, and whose write is answered by `r`. -/
def incrementTrace (data : List UInt8) (r : Int) : List (Event FileCall.Ans) :=
  [⟨.fsOpen "/lfs/boot_count" (FS_O_CREATE ||| FS_O_RDWR), (0 : Int)⟩,
    ⟨.fsRead 1, ((data.length : Int), data)⟩, ⟨.fsSeek 0, (0 : Int)⟩,
    ⟨.fsWrite [data.headD 0 + 1], r⟩, ⟨.fsClose, (0 : Int)⟩]

/-- The call from `s` in which only the write, answered by `r`, may fail. -/
def countCall (s : FileStore) (r : Int) : Increment :=
  let trace := incrementTrace ((s.files "/lfs/boot_count").getD []) r
  ⟨s, trace, if r < 0 then r else 0, FileStore.env.after s trace⟩

/-- An increment that finds `data`, a byte at most. -/
theorem exec_incrementTrace {s : FileStore} {data : List UInt8} {r : Int}
    (hfile : (s.files "/lfs/boot_count").getD [] = data) (hlen : data.length ≤ 1) (hr : r ≤ 1) :
    Exec FileStore.env s (norStorageIncrement "/lfs/boot_count") (incrementTrace data r)
      (if r < 0 then r else 0) (FileStore.env.after s (incrementTrace data r)) := by
  have hcreate : (FS_O_CREATE ||| FS_O_RDWR) &&& FS_O_CREATE ≠ 0 := by decide
  have hopened : (s.put "/lfs/boot_count" ((s.files "/lfs/boot_count").getD []) 0).opened =
      some (data, 0) := by
    rw [FileStore.opened_put, hfile]
  refine .call (fun _ _ => hcreate) (.call (fun _ => ⟨data, 0, hopened, ?_, rfl⟩) ?_)
  · exact (List.take_of_length_le hlen).symm
  · match data, hlen with
    | [], _ => exact .call trivial (.call hr (.call trivial .ret))
    | [_], _ => exact .call trivial (.call hr (.call trivial .ret))

/-- The call can be made where there is no file, or one of a byte at most. -/
theorem countCall_step {s : FileStore} {r : Int}
    (hlen : ((s.files "/lfs/boot_count").getD []).length ≤ 1) (hr : r ≤ 1) :
    CallStep FileStore.env (norStorageIncrement "/lfs/boot_count") s (countCall s r)
      (countCall s r).after :=
  ⟨rfl, rfl, exec_incrementTrace rfl hlen hr⟩

/-- A call that stores its byte. -/
def count₁ : Increment := countCall .empty 1

/-- The next one, whose write fails. -/
def count₂ : Increment := countCall count₁.after (- EIO)

/-- One more that stores its byte. -/
def count₃ : Increment := countCall count₂.after 1

/-- The counter is 2 after these calls. -/
theorem boot_counter_counts_iff_thrice :
    Counts "/lfs/boot_count" [count₁, count₂, count₃] count₃.after ∧
      count₃.after.counter "/lfs/boot_count" = 2 := by
  have hrun : Boots "/lfs/boot_count" .empty [count₁, count₂, count₃] count₃.after :=
    .cons (countCall_step (by decide) (by decide)) <|
      .cons (countCall_step (by decide) (by decide)) <|
        .cons (countCall_step (by decide) (by decide)) (.nil _)
  have hstored {c : Increment} {data : List UInt8}
      (hc : c.trace = incrementTrace data 1) : Stores c.trace := by
    rw [hc]
    exact ⟨_, .tail _ (.tail _ (.tail _ (.head _)))⟩
  refine ⟨(boot_counter_counts_iff rfl hrun).2 ?_, by decide⟩
  refine List.forall_mem_cons.2 ⟨fun _ => ⟨hstored rfl, by decide⟩, ?_⟩
  refine List.forall_mem_cons.2 ⟨fun hall => ?_, ?_⟩
  · -- the write of the second call has failed
    have hok : (0 : Int) ≤ - EIO := hall _ (.tail _ (.tail _ (.tail _ (.head _))))
    exact absurd hok (by decide)
  · exact List.forall_mem_singleton.2 fun _ => ⟨hstored rfl, by decide⟩

/-- The first call, with a write that is cut short. -/
def shortCount : Increment := countCall .empty 0

/-- The first write is cut short: 0 is returned, and nothing was counted. -/
theorem short_write_uncounted :
    Boots "/lfs/boot_count" .empty [shortCount] shortCount.after ∧ shortCount.ret = 0 ∧
      shortCount.after.counter "/lfs/boot_count" = 0 ∧
      ¬ Counts "/lfs/boot_count" [shortCount] shortCount.after := by
  have hrun : Boots "/lfs/boot_count" .empty [shortCount] shortCount.after :=
    .cons (countCall_step (by decide) (by decide)) (.nil _)
  have hcounter : shortCount.after.counter "/lfs/boot_count" = 0 := by decide
  refine ⟨hrun, rfl, hcounter, ?_⟩
  intro h
  have hnext := h.next _ (.head _) rfl
  rw [hcounter] at hnext
  cases hnext

end NrfFeather
