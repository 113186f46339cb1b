/-!
# JSON texts

JSON values, the compact text of a value, and a reader of JSON texts. A number is an integer
mantissa times a power of ten, so that no number of a text is rounded. The reader accepts
whitespace, fractions, exponents and escapes as the standard has them (of `\u` escapes, those that
denote a character by themselves); its fuel bounds the nesting, and the length of the text is always
enough of it.

The main result is `value_render`: reading the text of a value gives the value back, and stops
right behind it whatever follows, as long as a number is not followed by what would prolong it.
`read_render` is its form for a whole text, and `render_prefix` says that no text begins with the
text of another value, numbers apart.
-/

namespace JsonText

inductive Json where
  | null
  | bool (b : Bool)
  /-- `mantissa * 10 ^ exponent`. -/
  | num (mantissa exponent : Int)
  | str (s : String)
  | arr (xs : List Json)
  | obj (ms : List (String × Json))

namespace Json

/-- An integer. -/
def int (n : Int) : Json := .num n 0

/-! ## Rendering -/

def renderInt (n : Int) : List Char :=
  if n < 0 then '-' :: Nat.toDigits 10 n.natAbs else Nat.toDigits 10 n.natAbs

def renderNum (mantissa exponent : Int) : List Char :=
  renderInt mantissa ++ if exponent = 0 then [] else 'e' :: renderInt exponent

def escape (c : Char) : List Char :=
  if c = '"' then ['\\', '"']
  else if c = '\\' then ['\\', '\\']
  else if c.toNat < 32 then
    ['\\', 'u', '0', '0', Nat.digitChar (c.toNat / 16), Nat.digitChar (c.toNat % 16)]
  else [c]

def renderStr (s : String) : List Char :=
  '"' :: (s.toList.flatMap escape ++ ['"'])

mutual

/-- The compact text of a value. -/
def render : Json → List Char
  | .null => ['n', 'u', 'l', 'l']
  | .bool true => ['t', 'r', 'u', 'e']
  | .bool false => ['f', 'a', 'l', 's', 'e']
  | .num mantissa exponent => renderNum mantissa exponent
  | .str s => renderStr s
  | .arr [] => ['[', ']']
  | .arr (x :: xs) => '[' :: (render x ++ renderElems xs)
  | .obj [] => ['{', '}']
  | .obj ((k, v) :: ms) => '{' :: (renderStr k ++ ':' :: (render v ++ renderMembers ms))

/-- What follows the first element of an array. -/
def renderElems : List Json → List Char
  | [] => [']']
  | x :: xs => ',' :: (render x ++ renderElems xs)

/-- What follows the first member of an object. -/
def renderMembers : List (String × Json) → List Char
  | [] => ['}']
  | (k, v) :: ms => ',' :: (renderStr k ++ ':' :: (render v ++ renderMembers ms))

end

end Json

/-! ## Reading -/

def isWs (c : Char) : Bool := c = ' ' || c = '\t' || c = '\n' || c = '\r'

def skipWs (cs : List Char) : List Char := cs.dropWhile isWs

/-- The rest of a text behind a word. -/
def word : List Char → List Char → Option (List Char)
  | [], r => some r
  | c :: w, d :: r => if c = d then word w r else none
  | _ :: _, [] => none

/-- A run of digits, and what follows it. -/
def digitRun (cs : List Char) : Option (List Char × List Char) :=
  let ds := cs.takeWhile Char.isDigit
  if ds = [] then none else some (ds, cs.dropWhile Char.isDigit)

/-- The integer part of a number, which has no leading zero. -/
def intPart (cs : List Char) : Option (List Char × List Char) := do
  let (ds, r) ← digitRun cs
  if ds.head? = some '0' ∧ ds.length ≠ 1 then none else some (ds, r)

def fraction : List Char → Option (List Char × List Char)
  | '.' :: r => digitRun r
  | r => some ([], r)

def minus : List Char → Bool × List Char
  | '-' :: r => (true, r)
  | r => (false, r)

def signed (neg : Bool) (ds : List Char) : Int :=
  if neg then -(Nat.ofDigitChars 10 ds 0 : Int) else Nat.ofDigitChars 10 ds 0

def expSign : List Char → Bool × List Char
  | '+' :: r => (false, r)
  | r => minus r

def exponent : List Char → Option (Int × List Char)
  | [] => some (0, [])
  | c :: r =>
    if c = 'e' ∨ c = 'E' then do
      let (neg, r) := expSign r
      let (ds, r) ← digitRun r
      some (signed neg ds, r)
    else some (0, c :: r)

def number (cs : List Char) : Option (Json × List Char) := do
  let (neg, r) := minus cs
  let (ds, r) ← intPart r
  let (fs, r) ← fraction r
  let (e, r) ← exponent r
  some (.num (signed neg (ds ++ fs)) (e - fs.length), r)

def hexValue (c : Char) : Option Nat :=
  if '0' ≤ c ∧ c ≤ '9' then some (c.toNat - 48)
  else if 'a' ≤ c ∧ c ≤ 'f' then some (c.toNat - 87)
  else if 'A' ≤ c ∧ c ≤ 'F' then some (c.toNat - 55)
  else none

/-- The character of a `\u` escape. -/
def codeUnit (a b c d : Char) : Option Char := do
  let n := (((← hexValue a) * 16 + (← hexValue b)) * 16 + (← hexValue c)) * 16 + (← hexValue d)
  if n.isValidChar then some (Char.ofNat n) else none

/-- The character of a one-letter escape. -/
def unescape (c : Char) : Option Char :=
  if c = '"' ∨ c = '\\' ∨ c = '/' then some c
  else if c = 'b' then some (Char.ofNat 8)
  else if c = 'f' then some (Char.ofNat 12)
  else if c = 'n' then some '\n'
  else if c = 'r' then some '\r'
  else if c = 't' then some '\t'
  else none

/-- The rest of a string behind its opening quote. -/
def string : List Char → Option (List Char × List Char)
  | [] => none
  | ['\\'] => none
  | '"' :: r => some ([], r)
  | '\\' :: 'u' :: a :: b :: c :: d :: r => do
    let ch ← codeUnit a b c d
    let (s, r) ← string r
    some (ch :: s, r)
  | '\\' :: c :: r => do
    let ch ← unescape c
    let (s, r) ← string r
    some (ch :: s, r)
  | c :: r =>
    if c.toNat < 32 then none
    else do
      let (s, r) ← string r
      some (c :: s, r)

/-- A key and its colon. -/
def key (cs : List Char) : Option (String × List Char) :=
  match skipWs cs with
  | '"' :: r => do
    let (s, r) ← string r
    match skipWs r with
    | ':' :: r => some (String.ofList s, r)
    | _ => none
  | _ => none

mutual

/-- The value a text begins with, and what follows it. -/
def value : Nat → List Char → Option (Json × List Char)
  | 0, _ => none
  | fuel + 1, cs =>
    match skipWs cs with
    | [] => none
    | c :: r =>
      if c = 'n' then (word ['u', 'l', 'l'] r).map fun r => (.null, r)
      else if c = 't' then (word ['r', 'u', 'e'] r).map fun r => (.bool true, r)
      else if c = 'f' then (word ['a', 'l', 's', 'e'] r).map fun r => (.bool false, r)
      else if c = '"' then (string r).map fun p => (.str (String.ofList p.1), p.2)
      else if c = '[' then
        match skipWs r with
        | ']' :: r => some (.arr [], r)
        | r => do
          let (x, r) ← value fuel r
          let (xs, r) ← elements fuel r
          some (.arr (x :: xs), r)
      else if c = '{' then
        match skipWs r with
        | '}' :: r => some (.obj [], r)
        | r => do
          let (k, r) ← key r
          let (v, r) ← value fuel r
          let (ms, r) ← members fuel r
          some (.obj ((k, v) :: ms), r)
      else number (c :: r)

/-- The rest of an array behind an element. -/
def elements : Nat → List Char → Option (List Json × List Char)
  | 0, _ => none
  | fuel + 1, cs =>
    match skipWs cs with
    | ']' :: r => some ([], r)
    | ',' :: r => do
      let (x, r) ← value fuel r
      let (xs, r) ← elements fuel r
      some (x :: xs, r)
    | _ => none

/-- The rest of an object behind a member. -/
def members : Nat → List Char → Option (List (String × Json) × List Char)
  | 0, _ => none
  | fuel + 1, cs =>
    match skipWs cs with
    | '}' :: r => some ([], r)
    | ',' :: r => do
      let (k, r) ← key r
      let (v, r) ← value fuel r
      let (ms, r) ← members fuel r
      some ((k, v) :: ms, r)
    | _ => none

end

/-- The value of a whole text. -/
def read (cs : List Char) : Option Json := do
  let (j, r) ← value (cs.length + 1) cs
  if skipWs r = [] then some j else none

example : (read " [1, -2.50e3 , \x7b\"a\" : \"\\u0041\"\x7d] ".toList).map Json.render =
    some "[1,-250e1,\x7b\"a\":\"A\"\x7d]".toList := by
  decide

/-! ## Reading a number back -/

/-- Nothing is skipped before a character that is not white space. -/
@[simp] theorem skipWs_cons {c : Char} (hc : isWs c = false) (r : List Char) :
    skipWs (c :: r) = c :: r := by
  simp [skipWs, hc]

/-- What follows does not prolong a run of digits. -/
def EndsDigits (r : List Char) : Prop := ∀ c ∈ r.head?, c.isDigit = false

/-- A run of digits is read up to the first character that is none. -/
theorem digitRun_append {ds r : List Char} (hd : ∀ c ∈ ds, c.isDigit = true) (hne : ds ≠ [])
    (hr : EndsDigits r) : digitRun (ds ++ r) = some (ds, r) := by
  have htake : (ds ++ r).takeWhile Char.isDigit = ds := by
    rw [List.takeWhile_append_of_pos hd]
    cases r with
    | nil => simp
    | cons c r => simp [hr c rfl]
  have hdrop : (ds ++ r).dropWhile Char.isDigit = r := by
    rw [List.dropWhile_append_of_pos hd]
    cases r with
    | nil => rfl
    | cons c r => simp [hr c rfl]
  simp [digitRun, htake, hdrop, hne]

theorem toDigits_isDigit (n : Nat) : ∀ c ∈ Nat.toDigits 10 n, c.isDigit = true :=
  fun _ hc => Nat.isDigit_of_mem_toDigits (by decide) (by decide) hc

/-- A numeral has no leading zero. -/
theorem toDigits_head_zero {n : Nat} (h : (Nat.toDigits 10 n).head? = some '0') : n = 0 := by
  induction n using Nat.strongRecOn with
  | ind n ih =>
    rcases Nat.lt_or_ge n 10 with hn | hn
    · rw [Nat.toDigits_of_lt_base hn] at h
      simpa using h
    · have hhead : (Nat.toDigits 10 (n / 10)).head? = some '0' := by
        rw [Nat.toDigits_of_base_le (by decide) hn, List.head?_append] at h
        cases hds : Nat.toDigits 10 (n / 10) with
        | nil => exact absurd hds Nat.toDigits_ne_nil
        | cons c ds => simpa [hds] using h
      have := ih (n / 10) (by omega) hhead
      omega

/-- The digits of a natural number are the integer part of a JSON number. -/
theorem intPart_toDigits (n : Nat) {r : List Char} (hr : EndsDigits r) :
    intPart (Nat.toDigits 10 n ++ r) = some (Nat.toDigits 10 n, r) := by
  simp only [intPart, digitRun_append (toDigits_isDigit n) Nat.toDigits_ne_nil hr,
    Option.bind_eq_bind, Option.bind_some]
  refine if_neg ?_
  rintro ⟨hhead, hlen⟩
  rw [toDigits_head_zero hhead] at hlen
  exact hlen rfl

/-- A digit is none of the characters that open another part of a number. -/
theorem isDigit_ne {c d : Char} (hc : c.isDigit = true) (hd : d.isDigit = false) : c ≠ d := by
  rintro rfl
  rw [hc] at hd
  cases hd

/-- The sign of an integer is read off its text, and its digits are left. -/
theorem minus_renderInt (n : Int) (r : List Char) :
    minus (Json.renderInt n ++ r) = (decide (n < 0), Nat.toDigits 10 n.natAbs ++ r) := by
  unfold Json.renderInt
  split
  · rename_i hn
    simp [minus, hn]
  · rename_i hn
    rw [decide_eq_false hn]
    cases hds : Nat.toDigits 10 n.natAbs with
    | nil => exact absurd hds Nat.toDigits_ne_nil
    | cons c ds =>
      have hc : c ≠ '-' :=
        isDigit_ne (toDigits_isDigit n.natAbs c (by rw [hds]; exact .head _)) rfl
      simp [minus, hc]

/-- A sign and the digits of the absolute value give back the integer. -/
theorem signed_toDigits (n : Int) :
    signed (decide (n < 0)) (Nat.toDigits 10 n.natAbs) = n := by
  rw [signed, Nat.ofDigitChars_ten_toDigits]
  by_cases hn : n < 0
  · rw [if_pos (decide_eq_true hn)]
    omega
  · rw [if_neg (by simpa using hn)]
    omega

/-- What follows does not prolong a number. -/
def EndsNumber (r : List Char) : Prop :=
  ∀ c ∈ r.head?, c.isDigit = false ∧ c ≠ '.' ∧ c ≠ 'e' ∧ c ≠ 'E'

/-- What ends a number ends a run of digits. -/
theorem EndsNumber.endsDigits {r : List Char} (h : EndsNumber r) : EndsDigits r :=
  fun c hc => (h c hc).1

/-- Without a point there is no fraction. -/
theorem fraction_of_ne {r : List Char} (h : ∀ c ∈ r.head?, c ≠ '.') :
    fraction r = some ([], r) := by
  cases r with
  | nil => rfl
  | cons c r =>
    have hc : c ≠ '.' := h c rfl
    simp [fraction, hc]

/-- Nor is there an exponent where the number ends. -/
theorem exponent_of_endsNumber {r : List Char} (h : EndsNumber r) : exponent r = some (0, r) := by
  cases r with
  | nil => rfl
  | cons c r =>
    obtain ⟨-, -, he, hE⟩ := h c rfl
    simp [exponent, he, hE]

/-- The sign of an exponent is read off its text, and its digits are left. -/
theorem expSign_renderInt (n : Int) (r : List Char) :
    expSign (Json.renderInt n ++ r) = (decide (n < 0), Nat.toDigits 10 n.natAbs ++ r) := by
  have hne : ∀ cs : List Char, cs.head? ≠ some '+' → expSign cs = minus cs := by
    intro cs hcs
    unfold expSign
    split
    · exact absurd rfl hcs
    · rfl
  rw [hne, minus_renderInt]
  unfold Json.renderInt
  split
  · simp
  · cases hds : Nat.toDigits 10 n.natAbs with
    | nil => exact absurd hds Nat.toDigits_ne_nil
    | cons c ds =>
      have hc : c ≠ '+' :=
        isDigit_ne (toDigits_isDigit n.natAbs c (by rw [hds]; exact .head _)) rfl
      simpa using hc

/-- A rendered number is read back, up to whatever ends a number: the mantissa from its digits, and
the exponent where one was written. -/
theorem number_renderNum (m e : Int) {r : List Char} (hr : EndsNumber r) :
    number (Json.renderNum m e ++ r) = some (.num m e, r) := by
  by_cases he : e = 0
  · subst he
    have hdot : ∀ c ∈ r.head?, c ≠ '.' := fun c hc => (hr c hc).2.1
    simp [number, Json.renderNum, minus_renderInt, intPart_toDigits _ hr.endsDigits,
      fraction_of_ne hdot, exponent_of_endsNumber hr, signed_toDigits]
  · have hdigits : EndsDigits ('e' :: (Json.renderInt e ++ r)) := by
      rintro c hc
      cases hc
      rfl
    have hdot : ∀ c ∈ ('e' :: (Json.renderInt e ++ r)).head?, c ≠ '.' := by
      rintro c hc
      cases hc
      decide
    have hexp : exponent ('e' :: (Json.renderInt e ++ r)) = some (e, r) := by
      simp [exponent, expSign_renderInt, signed_toDigits,
        digitRun_append (toDigits_isDigit _) Nat.toDigits_ne_nil hr.endsDigits]
    simp [number, Json.renderNum, he, minus_renderInt, intPart_toDigits _ hdigits,
      fraction_of_ne hdot, hexp, signed_toDigits]

/-! ## Reading a string back -/

/-- A hexadecimal digit has the value it was printed for. -/
theorem hexValue_digitChar {n : Nat} (hn : n < 16) : hexValue (Nat.digitChar n) = some n := by
  have hall : ∀ n : Fin 16, hexValue (Nat.digitChar n) = some n.val := by decide
  exact hall ⟨n, hn⟩

/-- The `\u` escape of a control character. -/
theorem codeUnit_control {c : Char} (hc : c.toNat < 32) :
    codeUnit '0' '0' (Nat.digitChar (c.toNat / 16)) (Nat.digitChar (c.toNat % 16)) = some c := by
  have hzero : hexValue '0' = some 0 := rfl
  have hhi := hexValue_digitChar (show c.toNat / 16 < 16 by omega)
  have hlo := hexValue_digitChar (show c.toNat % 16 < 16 by omega)
  have hn : ((0 * 16 + 0) * 16 + c.toNat / 16) * 16 + c.toNat % 16 = c.toNat := by omega
  have hvalid : c.toNat.isValidChar := c.valid
  simp only [codeUnit, hzero, hhi, hlo, hn, Option.bind_eq_bind, Option.bind_some, hvalid, if_true,
    Char.ofNat_toNat]

/-- An escaped character is read back as the character. -/
theorem string_escape (c : Char) (r : List Char) :
    string (Json.escape c ++ r) = (string r).map fun p => (c :: p.1, p.2) := by
  unfold Json.escape
  split
  · rename_i hc
    subst hc
    cases hs : string r <;> simp [string, unescape, hs]
  · split
    · rename_i hc
      subst hc
      cases hs : string r <;> simp [string, unescape, hs]
    · split
      · rename_i hc
        cases hs : string r <;> simp [string, codeUnit_control hc, hs]
      · rename_i hslash hc
        cases hs : string r <;> simp [string, hslash, hc, hs]

/-- A whole escaped string is read back, up to the closing quote. -/
theorem string_flatMap_escape (cs r : List Char) :
    string (cs.flatMap Json.escape ++ '"' :: r) = some (cs, r) := by
  induction cs with
  | nil => rfl
  | cons c cs ih =>
    rw [List.flatMap_cons, List.append_assoc, string_escape, ih]
    rfl

/-- A key is read back with its colon. -/
theorem key_renderStr (k : String) (r : List Char) :
    key (Json.renderStr k ++ ':' :: r) = some (k, r) := by
  have hs := string_flatMap_escape k.toList (':' :: r)
  simp [key, Json.renderStr, isWs, hs]

/-! ## Reading a value back -/

namespace Json

mutual

/-- The fuel that reading a value takes. -/
def cost : Json → Nat
  | .arr (x :: xs) => 1 + cost x + costElems xs
  | .obj ((_, v) :: ms) => 1 + cost v + costMembers ms
  | _ => 1

def costElems : List Json → Nat
  | [] => 1
  | x :: xs => 1 + cost x + costElems xs

def costMembers : List (String × Json) → Nat
  | [] => 1
  | (_, v) :: ms => 1 + cost v + costMembers ms

end

/-- A rendered string has two quotes at least. -/
theorem renderStr_length (k : String) : 2 ≤ (renderStr k).length := by
  simp [renderStr]

mutual

/-- The length of a text is enough fuel. -/
theorem cost_le_length : (j : Json) → cost j ≤ (render j).length
  | .null => by simp [cost, render]
  | .bool true => by simp [cost, render]
  | .bool false => by simp [cost, render]
  | .num m e => by
    have hpos : 0 < (renderInt m).length := by
      have := @Nat.length_toDigits_pos 10 m.natAbs
      unfold renderInt
      split
      · simp
      · exact this
    simp only [cost, render, renderNum, List.length_append]
    omega
  | .str s => by
    have := renderStr_length s
    simp only [cost, render]
    omega
  | .arr [] => by simp [cost, render]
  | .arr (x :: xs) => by
    have hx := cost_le_length x
    have hxs := costElems_le_length xs
    simp only [cost, render, List.length_cons, List.length_append]
    omega
  | .obj [] => by simp [cost, render]
  | .obj ((k, v) :: ms) => by
    have hv := cost_le_length v
    have hms := costMembers_le_length ms
    simp only [cost, render, List.length_cons, List.length_append]
    omega

/-- The fuel that the elements of an array need is at most the length of their text. -/
theorem costElems_le_length : (xs : List Json) → costElems xs ≤ (renderElems xs).length
  | [] => by simp [costElems, renderElems]
  | x :: xs => by
    have hx := cost_le_length x
    have hxs := costElems_le_length xs
    simp only [costElems, renderElems, List.length_cons, List.length_append]
    omega

/-- The fuel that the members of an object need is at most the length of their text. -/
theorem costMembers_le_length :
    (ms : List (String × Json)) → costMembers ms ≤ (renderMembers ms).length
  | [] => by simp [costMembers, renderMembers]
  | (k, v) :: ms => by
    have hv := cost_le_length v
    have hms := costMembers_le_length ms
    simp only [costMembers, renderMembers, List.length_cons, List.length_append]
    omega

end

/-- What follows the text of a value does not prolong it, where it could. -/
def Delimits (j : Json) (r : List Char) : Prop := ∀ m e, j = .num m e → EndsNumber r

theorem delimits_of_endsNumber {r : List Char} (h : EndsNumber r) (j : Json) : Delimits j r :=
  fun _ _ _ => h

theorem endsNumber_nil : EndsNumber [] := fun _ hc => nomatch hc

/-- A character that cannot belong to a number ends it. -/
theorem endsNumber_cons {c : Char} (hc : c.isDigit = false ∧ c ≠ '.' ∧ c ≠ 'e' ∧ c ≠ 'E')
    (r : List Char) : EndsNumber (c :: r) := by
  rintro d hd
  cases hd
  exact hc

/-- What follows an element of an array ends a number. -/
theorem endsNumber_renderElems (xs : List Json) (r : List Char) :
    EndsNumber (renderElems xs ++ r) := by
  cases xs <;> exact endsNumber_cons (by decide) _

/-- What follows a member of an object ends a number. -/
theorem endsNumber_renderMembers (ms : List (String × Json)) (r : List Char) :
    EndsNumber (renderMembers ms ++ r) := by
  cases ms <;> exact endsNumber_cons (by decide) _

/-- A digit is not white space. -/
theorem isWs_of_isDigit {c : Char} (hc : c.isDigit = true) : isWs c = false := by
  have hspace : c ≠ ' ' := isDigit_ne hc rfl
  have htab : c ≠ '\t' := isDigit_ne hc rfl
  have hnewline : c ≠ '\n' := isDigit_ne hc rfl
  have hreturn : c ≠ '\r' := isDigit_ne hc rfl
  simp [isWs, hspace, htab, hnewline, hreturn]

/-- A text that begins with a digit or a sign is read as a number. -/
theorem value_number {c : Char} (hc : c.isDigit = true ∨ c = '-') (fuel : Nat) (r : List Char) :
    value (fuel + 1) (c :: r) = number (c :: r) := by
  have hne : isWs c = false ∧ c ≠ 'n' ∧ c ≠ 't' ∧ c ≠ 'f' ∧ c ≠ '"' ∧ c ≠ '[' ∧ c ≠ '{' := by
    rcases hc with hc | rfl
    · exact ⟨isWs_of_isDigit hc, isDigit_ne hc rfl, isDigit_ne hc rfl, isDigit_ne hc rfl,
        isDigit_ne hc rfl, isDigit_ne hc rfl, isDigit_ne hc rfl⟩
    · decide
  obtain ⟨hws, hn, ht, hf, hq, ha, ho⟩ := hne
  simp [value, hws, hn, ht, hf, hq, ha, ho]

/-- A rendered number begins with a digit or a minus sign. -/
theorem renderNum_head (m e : Int) :
    ∃ c r, renderNum m e = c :: r ∧ (c.isDigit = true ∨ c = '-') := by
  unfold renderNum renderInt
  split
  · exact ⟨'-', _, rfl, .inr rfl⟩
  · cases hds : Nat.toDigits 10 m.natAbs with
    | nil => exact absurd hds Nat.toDigits_ne_nil
    | cons c ds =>
      exact ⟨c, _, rfl, .inl (toDigits_isDigit m.natAbs c (by rw [hds]; exact .head _))⟩

/-- The text of a value does not begin with whitespace, nor with what closes an array. -/
theorem render_head (j : Json) : ∃ c r, render j = c :: r ∧ isWs c = false ∧ c ≠ ']' := by
  cases j with
  | null => exact ⟨_, _, rfl, by decide⟩
  | bool b => cases b <;> exact ⟨_, _, rfl, by decide⟩
  | num m e =>
    obtain ⟨c, r, heq, hc⟩ := renderNum_head m e
    refine ⟨c, r, heq, ?_⟩
    rcases hc with hc | rfl
    · exact ⟨isWs_of_isDigit hc, isDigit_ne hc rfl⟩
    · decide
  | str s => exact ⟨_, _, rfl, by decide⟩
  | arr xs => cases xs <;> exact ⟨_, _, rfl, by decide⟩
  | obj ms => cases ms <;> exact ⟨_, _, rfl, by decide⟩

/-- To read a value takes some fuel. -/
theorem cost_pos (j : Json) : 0 < cost j := by
  cases j with
  | arr xs => cases xs <;> simp only [cost] <;> omega
  | obj ms => cases ms <;> simp only [cost] <;> omega
  | _ => exact Nat.one_pos

mutual

/-- Reading the text of a value gives the value back, whatever follows. -/
theorem value_render : (j : Json) → (fuel : Nat) → (r : List Char) → cost j ≤ fuel →
    Delimits j r → value fuel (render j ++ r) = some (j, r)
  | j, 0, r, hf, _ => absurd (cost_pos j) (by omega)
  | .null, fuel + 1, r, _, _ => by simp [value, render, isWs, word]
  | .bool true, fuel + 1, r, _, _ => by simp [value, render, isWs, word]
  | .bool false, fuel + 1, r, _, _ => by simp [value, render, isWs, word]
  | .num m e, fuel + 1, r, _, hr => by
    obtain ⟨c, cs, heq, hc⟩ := renderNum_head m e
    have hnum := number_renderNum m e (hr m e rfl)
    rw [render]
    rw [heq, List.cons_append] at hnum ⊢
    rw [value_number hc, hnum]
  | .str s, fuel + 1, r, _, _ => by
    have hs := string_flatMap_escape s.toList r
    simp [value, render, renderStr, isWs, hs]
  | .arr [], fuel + 1, r, _, _ => by simp [value, render, isWs]
  | .arr (x :: xs), fuel + 1, r, hf, _ => by
    simp only [cost] at hf
    have hx := value_render x fuel (renderElems xs ++ r) (by omega)
      (delimits_of_endsNumber (endsNumber_renderElems xs r) x)
    have hxs := elements_render xs fuel r (by omega)
    obtain ⟨c, cs, heq, hws, hc⟩ := render_head x
    have hskip := skipWs_cons hws (cs ++ (renderElems xs ++ r))
    rw [heq] at hx
    simp only [List.cons_append] at hx
    simp [value, render, isWs, heq, hskip, hc, hx, hxs]
  | .obj [], fuel + 1, r, _, _ => by simp [value, render, isWs]
  | .obj ((k, v) :: ms), fuel + 1, r, hf, _ => by
    simp only [cost] at hf
    have hv := value_render v fuel (renderMembers ms ++ r) (by omega)
      (delimits_of_endsNumber (endsNumber_renderMembers ms r) v)
    have hms := members_render ms fuel r (by omega)
    have hk := key_renderStr k (render v ++ (renderMembers ms ++ r))
    simp only [renderStr, List.cons_append, List.append_assoc, List.nil_append] at hk
    simp [value, render, renderStr, isWs, hk, hv, hms]

/-- The rendered elements of an array are read back, with enough fuel. -/
theorem elements_render : (xs : List Json) → (fuel : Nat) → (r : List Char) →
    costElems xs ≤ fuel → elements fuel (renderElems xs ++ r) = some (xs, r)
  | xs, 0, r, hf => by
    cases xs <;> simp [costElems] at hf
  | [], fuel + 1, r, _ => by simp [elements, renderElems, isWs]
  | x :: xs, fuel + 1, r, hf => by
    simp only [costElems] at hf
    have hx := value_render x fuel (renderElems xs ++ r) (by omega)
      (delimits_of_endsNumber (endsNumber_renderElems xs r) x)
    have hxs := elements_render xs fuel r (by omega)
    simp [elements, renderElems, isWs, hx, hxs]

/-- The rendered members of an object are read back, with enough fuel. -/
theorem members_render : (ms : List (String × Json)) → (fuel : Nat) → (r : List Char) →
    costMembers ms ≤ fuel → members fuel (renderMembers ms ++ r) = some (ms, r)
  | ms, 0, r, hf => by
    cases ms <;> simp [costMembers] at hf
  | [], fuel + 1, r, _ => by simp [members, renderMembers, isWs]
  | (k, v) :: ms, fuel + 1, r, hf => by
    simp only [costMembers] at hf
    have hv := value_render v fuel (renderMembers ms ++ r) (by omega)
      (delimits_of_endsNumber (endsNumber_renderMembers ms r) v)
    have hms := members_render ms fuel r (by omega)
    have hk := key_renderStr k (render v ++ (renderMembers ms ++ r))
    simp [members, renderMembers, isWs, hk, hv, hms]

end

/-- Reading the whole text of a value gives the value back. -/
theorem read_render (j : Json) : read (render j) = some j := by
  have hvalue := value_render j ((render j).length + 1) []
    (Nat.le_succ_of_le (cost_le_length j)) (delimits_of_endsNumber endsNumber_nil j)
  rw [List.append_nil] at hvalue
  rw [read, hvalue]
  rfl

/-- No text begins with that of another value, unless this value is a number. -/
theorem render_prefix {j k : Json} (hj : ∀ m e, j ≠ .num m e) (h : render j <+: render k) :
    j = k := by
  obtain ⟨r, hr⟩ := h
  have hvalue := value_render j (max (cost j) (cost k)) r (Nat.le_max_left _ _)
    (fun m e hnum => absurd hnum (hj m e))
  have hwhole := value_render k (max (cost j) (cost k)) [] (Nat.le_max_right _ _)
    (delimits_of_endsNumber endsNumber_nil k)
  rw [List.append_nil, ← hr, hvalue, Option.some.injEq, Prod.mk.injEq] at hwhole
  exact hwhole.1

end Json

end JsonText
