import NrfFeather.Lib.Json
import NrfFeather.Lib.Memory
import NrfFeather.Zephyr

/-!
# Zephyr's JSON library

What the codec uses of `zephyr/data/json.h`: descriptor tables, and the two functions that work on
a struct in memory with the help of such a table. The library is not part of the repository, so
the codec is modelled over any `JsonLib`; `JsonLib.Documented` is what is known of it. `zephyrJson`
is an instance that appends the text in the pieces of the real one.
-/

namespace NrfFeather

open JsonText Memory

/-! ## Descriptors -/

/-- `struct json_obj_descr`, for the token types that the codec uses: `JSON_OBJ_DESCR_PRIM` with
`JSON_TOK_NUMBER`, and `JSON_OBJ_DESCR_OBJECT`. -/
inductive Descr where
  | number (fieldName : String) (offset : Nat)
  | object (fieldName : String) (offset : Nat) (sub : List Descr)

mutual

/-- The member that a field of the struct at `a` is encoded as. -/
def Descr.member (m : Mem) (a : Nat) : Descr → String × Json
  | .number fieldName offset => (fieldName, .int (m.load32 (a + offset)).toInt32.toInt)
  | .object fieldName offset sub => (fieldName, .obj (membersOf m (a + offset) sub))

/-- The members that the struct at `a` is encoded as. -/
def membersOf (m : Mem) (a : Nat) : List Descr → List (String × Json)
  | [] => []
  | d :: ds => d.member m a :: membersOf m a ds

end

/-- The object that the struct at `a` is encoded as. -/
def objectOf (ds : List Descr) (m : Mem) (a : Nat) : Json := .obj (membersOf m a ds)

/-- Its text. -/
def textOf (ds : List Descr) (m : Mem) (a : Nat) : List Char := (objectOf ds m a).render

/-- Characters as they are stored. -/
def bytes (cs : List Char) : List UInt8 := cs.map fun c => c.toNat.toUInt8

@[simp] theorem bytes_length (cs : List Char) : (bytes cs).length = cs.length :=
  List.length_map _

/-- Texts that follow one another are stored one after the other. -/
theorem bytes_append (cs ds : List Char) : bytes (cs ++ ds) = bytes cs ++ bytes ds :=
  List.map_append

/-! ## Appending to a buffer -/

/-- `append_bytes_to_buf`, for one piece after the other: a piece that would not leave room for
the terminating NUL is refused, and ends the encoding. -/
def appendAll (buf size : Nat) : Mem → Nat → List (List Char) → Mem × Int
  | m, _, [] => (m, 0)
  | m, used, p :: ps =>
    if size - used ≤ p.length then (m, -ENOMEM)
    else appendAll buf size (m.write (buf + used) (bytes p ++ [0])) (used + p.length) ps

variable {buf size used : Nat} {m : Mem}

/-- The pieces that are appended before one is refused. -/
def fitting (size : Nat) : Nat → List (List Char) → List (List Char)
  | _, [] => []
  | used, p :: ps => if size - used ≤ p.length then [] else p :: fitting size (used + p.length) ps

/-- What appended pieces have put into the buffer. -/
def stored : List (List Char) → List UInt8
  | [] => []
  | p :: ps => bytes (p :: ps).flatten ++ [0]

/-- What was appended is there with a NUL. -/
theorem stored_of_ne_nil {ps : List (List Char)} (h : ps ≠ []) :
    stored ps = bytes ps.flatten ++ [0] := by
  cases ps with
  | nil => exact absurd rfl h
  | cons p ps => rfl

/-- The memory after an encoding, with whatever result: the pieces that fit have been written. -/
theorem appendAll_mem (m : Mem) (used : Nat) (ps : List (List Char)) :
    (appendAll buf size m used ps).1 = m.write (buf + used) (stored (fitting size used ps)) := by
  induction ps generalizing m used with
  | nil => exact (m.write_nil _).symm
  | cons p ps ih =>
    rw [appendAll, fitting]
    split
    · exact (m.write_nil _).symm
    · rw [ih, ← Nat.add_assoc]
      cases fitting size (used + p.length) ps with
      | nil => rw [stored, Mem.write_nil, stored, List.flatten_singleton]
      | cons q qs =>
        -- the NUL of this piece is overwritten by the next one
        have hcover : [(0 : UInt8)].length ≤ (bytes (q :: qs).flatten ++ [0]).length := by
          rw [List.length_append]
          exact Nat.le_add_left _ _
        rw [stored, stored, ← bytes_length p, Mem.write_end hcover, List.flatten_cons (l := p),
          bytes_append, List.append_assoc]

/-- What has been written lies within the buffer. -/
theorem stored_fitting_length (used : Nat) (ps : List (List Char)) :
    (stored (fitting size used ps)).length ≤ size - used := by
  induction ps generalizing used with
  | nil => exact Nat.zero_le _
  | cons p ps ih =>
    rw [fitting]
    split
    · exact Nat.zero_le _
    · next hroom =>
      have hrest := ih (used + p.length)
      cases hps : fitting size (used + p.length) ps with
      | nil =>
        rw [stored, List.flatten_singleton, List.length_append, bytes_length, List.length_singleton]
        omega
      | cons q qs =>
        rw [hps, stored, List.length_append, bytes_length, List.length_singleton] at hrest
        rw [stored, List.flatten_cons, List.length_append, bytes_length, List.length_append,
          List.length_singleton]
        omega

/-- Where there is room for all pieces and a NUL, all of them fit. -/
theorem fitting_eq_self {ps : List (List Char)} (hfits : used + ps.flatten.length < size) :
    fitting size used ps = ps := by
  induction ps generalizing used with
  | nil => rfl
  | cons p ps ih =>
    rw [List.flatten_cons, List.length_append] at hfits
    rw [fitting, if_neg (by omega), ih (by omega)]

/-- Pieces that fit with a NUL are appended without an error. -/
theorem appendAll_ret {ps : List (List Char)} (hfits : used + ps.flatten.length < size) :
    (appendAll buf size m used ps).2 = 0 := by
  induction ps generalizing m used with
  | nil => rfl
  | cons p ps ih =>
    rw [List.flatten_cons, List.length_append] at hfits
    rw [appendAll, if_neg (by omega)]
    exact ih (by omega)

/-- Where the pieces fit, they are all there in the end, with a NUL behind them. -/
theorem appendAll_fits {ps : List (List Char)} (hne : ps ≠ [])
    (hfits : used + ps.flatten.length < size) :
    (appendAll buf size m used ps).2 = 0 ∧
      (appendAll buf size m used ps).1.Holds (buf + used) (bytes ps.flatten ++ [0]) := by
  refine ⟨appendAll_ret hfits, ?_⟩
  rw [appendAll_mem, fitting_eq_self hfits, ← stored_of_ne_nil hne]
  exact Mem.write_holds _ _ _

/-- Where they do not, the encoding is refused. -/
theorem appendAll_full {ps : List (List Char)} (hps : ps = [] → used < size)
    (hfull : size ≤ used + ps.flatten.length) :
    (appendAll buf size m used ps).2 = -ENOMEM := by
  induction ps generalizing m used with
  | nil =>
    have hused := hps rfl
    simp only [List.flatten_nil, List.length_nil] at hfull
    omega
  | cons p ps ih =>
    rw [List.flatten_cons, List.length_append] at hfull
    rw [appendAll]
    split
    · rfl
    · exact ih (fun _ => by omega) (by omega)

/-! ## The library -/

/-- The functions of the library that the codec calls, with the memory they leave behind. -/
structure JsonLib where
  calcEncodedLen : List Descr → Mem → Nat → Int
  objEncodeBuf : List Descr → Mem → Nat → Nat → UInt32 → Mem × Int

mutual

/-- The extent of the fields of a struct. -/
def Descr.extent : Descr → Nat
  | .number _ offset => offset + 4
  | .object _ offset sub => offset + extentOf sub

def extentOf : List Descr → Nat
  | [] => 0
  | d :: ds => max d.extent (extentOf ds)

end

/-- Two stretches of memory do not overlap. -/
def Apart (a n b k : Nat) : Prop := a + n ≤ b ∨ b + k ≤ a

/-- What is documented of the library: the length is that of the text of the struct at the
address, and encoding it, into a buffer apart from it, appends its text piece by piece. -/
structure JsonLib.Documented (lib : JsonLib) : Prop where
  length : ∀ ds m a, lib.calcEncodedLen ds m a = (textOf ds m a).length
  encode : ∀ ds m a buf (size : UInt32), Apart a (extentOf ds) buf size.toNat →
    ∃ ps : List (List Char), ps.flatten = textOf ds m a ∧
      lib.objEncodeBuf ds m a buf size = appendAll buf size.toNat m 0 ps

/-- The same, where the pieces of an object are known. -/
structure JsonLib.Appends (lib : JsonLib) (cut : List Descr → Mem → Nat → List (List Char)) :
    Prop where
  length : ∀ ds m a, lib.calcEncodedLen ds m a = (textOf ds m a).length
  flatten : ∀ ds m a, (cut ds m a).flatten = textOf ds m a
  encode : ∀ ds m a buf (size : UInt32), Apart a (extentOf ds) buf size.toNat →
    lib.objEncodeBuf ds m a buf size = appendAll buf size.toNat m 0 (cut ds m a)

/-- A library whose pieces are known is as documented. -/
theorem JsonLib.Appends.documented {lib : JsonLib}
    {cut : List Descr → Mem → Nat → List (List Char)} (h : lib.Appends cut) : lib.Documented :=
  ⟨h.length, fun ds m a buf size hapart => ⟨_, h.flatten ds m a, h.encode ds m a buf size hapart⟩⟩

/-! ## An instance -/

/-- A key: its quotes and characters, one by one, and the colon. -/
def keyPieces (k : String) : List (List Char) :=
  ['"'] :: (k.toList.map Json.escape ++ [['"'], [':']])

mutual

/-- The pieces an object is appended in; a number is one piece. -/
def pieces : Json → List (List Char)
  | .obj [] => [['{'], ['}']]
  | .obj ((k, v) :: ms) => ['{'] :: (keyPieces k ++ (pieces v ++ memberPieces ms))
  | j => [j.render]

def memberPieces : List (String × Json) → List (List Char)
  | [] => [['}']]
  | (k, v) :: ms => [','] :: (keyPieces k ++ (pieces v ++ memberPieces ms))

end

/-- Together the pieces of a key are its text. -/
theorem keyPieces_flatten (k : String) : (keyPieces k).flatten = Json.renderStr k ++ [':'] := by
  simp [keyPieces, Json.renderStr, List.flatMap_def]

mutual

/-- Together the pieces of a value are its text. -/
theorem pieces_flatten : (j : Json) → (pieces j).flatten = j.render
  | .null | .bool _ | .num _ _ | .str _ | .arr _ => by simp [pieces]
  | .obj [] => by simp [pieces, Json.render]
  | .obj ((k, v) :: ms) => by
    simp [pieces, Json.render, keyPieces_flatten, pieces_flatten v, memberPieces_flatten ms]

/-- So are those of the members of an object. -/
theorem memberPieces_flatten :
    (ms : List (String × Json)) → (memberPieces ms).flatten = Json.renderMembers ms
  | [] => by simp [memberPieces, Json.renderMembers]
  | (k, v) :: ms => by
    simp [memberPieces, Json.renderMembers, keyPieces_flatten, pieces_flatten v,
      memberPieces_flatten ms]

end

def zephyrJson : JsonLib where
  calcEncodedLen ds m a := (textOf ds m a).length
  objEncodeBuf ds m a buf size := appendAll buf size.toNat m 0 (pieces (objectOf ds m a))

/-- It appends the pieces of the object. -/
theorem zephyrJson_appends : zephyrJson.Appends fun ds m a => pieces (objectOf ds m a) :=
  ⟨fun _ _ _ => rfl, fun _ _ _ => pieces_flatten _, fun _ _ _ _ _ _ => rfl⟩

/-- So it is as documented. -/
theorem zephyrJson_documented : zephyrJson.Documented := zephyrJson_appends.documented

end NrfFeather
