import NrfFeather.Codec.ZephyrJson

/-!
# The example codec

`lib/codec/example_json_codec.c`: the two descriptor tables and `example_json_codec_encode`, which
estimates the length of the text, checks the buffer against it, and encodes. The estimate is made
at the address of the parameter `payload` instead of at the payload, so it is the length of the
text of whatever lies there; `encode_cases` says what this makes of the result, for every content of
the memory.
-/

namespace NrfFeather

open JsonText Memory

/-! ## Payloads -/

/-- `struct sensor2_value`. -/
structure Sensor2Value where
  xValue : Int32
  yValue : Int32
  zValue : Int32
  deriving DecidableEq

/-- `struct example_json_payload`. -/
structure ExampleJsonPayload where
  timestamp : UInt32
  sensor1Value : Int32
  sensor2Value : Sensor2Value
  deriving DecidableEq

/-- The struct at an address. -/
def ExampleJsonPayload.load (m : Mem) (a : Nat) : ExampleJsonPayload where
  timestamp := m.load32 a
  sensor1Value := (m.load32 (a + 4)).toInt32
  sensor2Value :=
    { xValue := (m.load32 (a + 8)).toInt32
      yValue := (m.load32 (a + 12)).toInt32
      zValue := (m.load32 (a + 16)).toInt32 }

/-- Only the twenty bytes of the struct matter. -/
theorem ExampleJsonPayload.load_congr {m m' : Mem} {a : Nat}
    (h : ∀ i < 20, m' (a + i) = m (a + i)) : load m' a = load m a := by
  have hword (offset : Nat) (hoffset : offset ≤ 16) :
      m'.load32 (a + offset) = m.load32 (a + offset) := by
    have h1 := h (offset + 1) (by omega)
    have h2 := h (offset + 2) (by omega)
    have h3 := h (offset + 3) (by omega)
    rw [← Nat.add_assoc] at h1 h2 h3
    rw [Mem.load32, Mem.load32, h offset (by omega), h1, h2, h3]
  have h0 := hword 0 (by decide)
  rw [Nat.add_zero] at h0
  rw [load, load, h0, hword 4 (by decide), hword 8 (by decide), hword 12 (by decide),
    hword 16 (by decide)]

def sensor2ValueDescr : List Descr :=
  [.number "x_value" 0, .number "y_value" 4, .number "z_value" 8]

def exampleJsonPayloadDescr : List Descr :=
  [.number "timestamp" 0, .number "sensor1_value" 4, .object "sensor2_value" 8 sensor2ValueDescr]

/-! ## Encoding -/

/-- A call of the encoder: the memory, the pointer it is given, the address of the variable that
holds this pointer, and the buffer, which lies apart from the payload. -/
structure EncodeCall where
  mem : Mem
  payload : UInt32
  payloadVar : Nat
  buf : Nat
  bufLen : UInt32
  stored : mem.load32 payloadVar = payload
  apart : Apart payload.toNat (extentOf exampleJsonPayloadDescr) buf bufLen.toNat

/-- `example_json_codec_encode`: the memory it leaves behind, and its result. -/
def exampleJsonCodecEncode (lib : JsonLib) (c : EncodeCall) : Mem × Int :=
  -- `&payload` is the address of the parameter, not that of the payload
  let len := lib.calcEncodedLen exampleJsonPayloadDescr c.mem c.payloadVar
  if c.bufLen < UInt32.ofInt len then (c.mem, -ENOMEM)
  else
    let (mem, ret) :=
      lib.objEncodeBuf exampleJsonPayloadDescr c.mem c.payload.toNat c.buf c.bufLen
    if ret = 0 then (mem, toInt (mem.strlen c.buf)) else (mem, ret)

/-- The fields of the payload. -/
def EncodeCall.fields (c : EncodeCall) : ExampleJsonPayload := .load c.mem c.payload.toNat

/-- The text of the payload. -/
def EncodeCall.text (c : EncodeCall) : List Char :=
  textOf exampleJsonPayloadDescr c.mem c.payload.toNat

/-- The text of the struct that would begin at the variable that holds the pointer. -/
def EncodeCall.measured (c : EncodeCall) : List Char :=
  textOf exampleJsonPayloadDescr c.mem c.payloadVar

/-! ## Texts -/

/-- An integer is rendered without an exponent. -/
theorem render_int (n : Int) : (Json.int n).render = Json.renderInt n := by
  simp [Json.int, Json.render, Json.renderNum]

/-- What the tables make of the fields of a payload. -/
def ExampleJsonPayload.encoded (p : ExampleJsonPayload) : Json :=
  .obj [
    ("timestamp", .int p.timestamp.toInt32.toInt),
    ("sensor1_value", .int p.sensor1Value.toInt),
    ("sensor2_value", .obj [
      ("x_value", .int p.sensor2Value.xValue.toInt),
      ("y_value", .int p.sensor2Value.yValue.toInt),
      ("z_value", .int p.sensor2Value.zValue.toInt)])]

def ExampleJsonPayload.text (p : ExampleJsonPayload) : List Char := p.encoded.render

/-- The object of a struct depends on its fields alone. -/
theorem objectOf_payload (m : Mem) (a : Nat) :
    objectOf exampleJsonPayloadDescr m a = (ExampleJsonPayload.load m a).encoded := by
  simp only [objectOf, exampleJsonPayloadDescr, sensor2ValueDescr, membersOf, Descr.member,
    ExampleJsonPayload.encoded, ExampleJsonPayload.load, Nat.add_assoc, Nat.add_zero]

/-- The text of a struct depends on its fields alone. -/
theorem textOf_payload (m : Mem) (a : Nat) :
    textOf exampleJsonPayloadDescr m a = (ExampleJsonPayload.load m a).text := by
  rw [textOf, objectOf_payload, ExampleJsonPayload.text]

/-- The text of a call is that of the payload's fields. -/
theorem EncodeCall.text_eq (c : EncodeCall) : c.text = c.fields.text := textOf_payload _ _

/-- The text of a payload, piece by piece. -/
theorem ExampleJsonPayload.text_eq (p : ExampleJsonPayload) :
    p.text =
      '{' :: (Json.renderStr "timestamp" ++ ':' :: (Json.renderInt p.timestamp.toInt32.toInt ++
      ',' :: (Json.renderStr "sensor1_value" ++ ':' :: (Json.renderInt p.sensor1Value.toInt ++
      ',' :: (Json.renderStr "sensor2_value" ++ ':' ::
        '{' :: (Json.renderStr "x_value" ++ ':' :: (Json.renderInt p.sensor2Value.xValue.toInt ++
        ',' :: (Json.renderStr "y_value" ++ ':' :: (Json.renderInt p.sensor2Value.yValue.toInt ++
        ',' :: (Json.renderStr "z_value" ++ ':' :: (Json.renderInt p.sensor2Value.zValue.toInt ++
        ['}', '}']))))))))))) := by
  simp only [ExampleJsonPayload.text, ExampleJsonPayload.encoded, Json.render, Json.renderMembers,
    render_int, List.cons_append, List.append_assoc, List.nil_append]

/-- The characters of the codec's texts. -/
def Printable (c : Char) : Prop := 32 ≤ c.toNat ∧ c.toNat < 127

instance (c : Char) : Decidable (Printable c) := inferInstanceAs (Decidable (_ ∧ _))

/-- The text of an integer is printable. -/
theorem printable_renderInt (n : Int) : ∀ c ∈ Json.renderInt n, Printable c := by
  have hdigits : ∀ c ∈ Nat.toDigits 10 n.natAbs, Printable c := by
    intro c hc
    have hdigit := toDigits_isDigit n.natAbs c hc
    simp only [Char.isDigit, Bool.and_eq_true, decide_eq_true_eq, UInt32.le_iff_toNat_le] at hdigit
    obtain ⟨hlo, hhi⟩ := hdigit
    exact ⟨Nat.le_trans (by decide) hlo, Nat.lt_of_le_of_lt hhi (by decide)⟩
  intro c hc
  unfold Json.renderInt at hc
  split at hc
  · rcases List.mem_cons.1 hc with rfl | hc
    · decide
    · exact hdigits c hc
  · exact hdigits c hc

/-- So is the whole text of a payload. -/
theorem ExampleJsonPayload.text_printable (p : ExampleJsonPayload) :
    ∀ c ∈ p.text, Printable c := by
  have hkeys : ∀ k ∈ ["timestamp", "sensor1_value", "sensor2_value", "x_value", "y_value",
      "z_value"], (Json.renderStr k).all (fun c => decide (Printable c)) := by decide
  have hpunct : ['{', '}', ':', ','].all (fun c => decide (Printable c)) := by decide
  simp only [List.all_eq_true, decide_eq_true_eq, List.forall_mem_cons] at hkeys hpunct
  obtain ⟨htimestamp, hsensor1, hsensor2, hx, hy, hz, -⟩ := hkeys
  obtain ⟨hopen, hclose, hcolon, hcomma, -⟩ := hpunct
  rw [text_eq]
  simp only [List.forall_mem_cons, List.forall_mem_append]
  exact ⟨hopen, htimestamp, hcolon, printable_renderInt _, hcomma, hsensor1, hcolon,
    printable_renderInt _, hcomma, hsensor2, hcolon, hopen, hx, hcolon, printable_renderInt _,
    hcomma, hy, hcolon, printable_renderInt _, hcomma, hz, hcolon, printable_renderInt _, hclose,
    hclose, nofun⟩

/-- An `int32_t` takes at most eleven characters. -/
theorem renderInt_length (n : Int32) : (Json.renderInt n.toInt).length ≤ 11 := by
  have hlo := n.le_toInt
  have hhi := n.toInt_lt
  have hdigits : (Nat.toDigits 10 n.toInt.natAbs).length ≤ 10 :=
    (Nat.length_toDigits_le_iff (by decide) (by decide)).2 (by omega)
  unfold Json.renderInt
  split
  · rw [List.length_cons]
    omega
  · omega

/-- A text has 137 characters at most. -/
theorem ExampleJsonPayload.text_length (p : ExampleJsonPayload) : p.text.length ≤ 137 := by
  have hkeys : (["timestamp", "sensor1_value", "sensor2_value", "x_value", "y_value",
      "z_value"].map fun k => (Json.renderStr k).length) = [11, 15, 15, 9, 9, 9] := by decide
  simp only [List.map_cons, List.map_nil, List.cons.injEq] at hkeys
  have htimestamp := renderInt_length p.timestamp.toInt32
  have hsensor1 := renderInt_length p.sensor1Value
  have hx := renderInt_length p.sensor2Value.xValue
  have hy := renderInt_length p.sensor2Value.yValue
  have hz := renderInt_length p.sensor2Value.zValue
  rw [text_eq]
  simp only [List.length_cons, List.length_append, List.length_nil]
  omega

/-- It has its two braces at least. -/
theorem ExampleJsonPayload.one_lt_text_length (p : ExampleJsonPayload) : 1 < p.text.length := by
  rw [text_eq]
  simp only [List.length_cons, List.length_append]
  omega

theorem ExampleJsonPayload.text_ne_nil (p : ExampleJsonPayload) : p.text ≠ [] := by
  rw [text_eq]
  exact List.cons_ne_nil _ _

/-- The text of the struct at an address is printable. -/
theorem textOf_printable (m : Mem) (a : Nat) :
    ∀ c ∈ textOf exampleJsonPayloadDescr m a, Printable c := by
  rw [textOf_payload]
  exact ExampleJsonPayload.text_printable _

/-- It has 137 characters at most. -/
theorem textOf_length (m : Mem) (a : Nat) :
    (textOf exampleJsonPayloadDescr m a).length ≤ 137 := by
  rw [textOf_payload]
  exact ExampleJsonPayload.text_length _

/-- It has two at least. -/
theorem one_lt_textOf_length (m : Mem) (a : Nat) :
    1 < (textOf exampleJsonPayloadDescr m a).length := by
  rw [textOf_payload]
  exact ExampleJsonPayload.one_lt_text_length _

theorem textOf_ne_nil (m : Mem) (a : Nat) : textOf exampleJsonPayloadDescr m a ≠ [] := by
  rw [textOf_payload]
  exact ExampleJsonPayload.text_ne_nil _

/-! ## What a call does -/

/-- A printable character fits a byte. -/
theorem Printable.toNat_toUInt8 {c : Char} (h : Printable c) : c.toNat.toUInt8.toNat = c.toNat :=
  UInt8.toNat_ofNat_of_lt' (Nat.lt_trans h.2 (by decide))

/-- A printable text is stored without a NUL. -/
theorem bytes_ne_zero {cs : List Char} (h : ∀ c ∈ cs, Printable c) : ∀ b ∈ bytes cs, b ≠ 0 := by
  intro b hb hzero
  obtain ⟨c, hc, rfl⟩ := List.mem_map.1 hb
  have hval := congrArg UInt8.toNat hzero
  rw [(h c hc).toNat_toUInt8] at hval
  have := (h c hc).1
  simp at hval
  omega

/-- Stored characters. -/
def chars (bs : List UInt8) : List Char := bs.map fun b => Char.ofNat b.toNat

/-- A printable text can be read back. -/
theorem chars_bytes {cs : List Char} (h : ∀ c ∈ cs, Printable c) : chars (bytes cs) = cs := by
  rw [chars, bytes, List.map_map]
  refine (List.map_congr_left ?_).trans (List.map_id cs)
  intro c hc
  rw [Function.comp_apply, (h c hc).toNat_toUInt8, Char.ofNat_toNat]
  rfl

/-- The comparison of the estimate with the size of the buffer. -/
theorem lt_ofInt_iff {size : UInt32} {n : Nat} (hn : n < 2 ^ 32) :
    size < UInt32.ofInt n ↔ size.toNat < n := by
  have hmod : ((n : Int) % 2 ^ 32).toNat = n := by omega
  rw [UInt32.lt_iff_toNat_lt, UInt32.ofInt, hmod, UInt32.toNat_ofNat_of_lt' hn]

/-- The check refuses a buffer that is shorter than the text it measured. -/
theorem check_iff {lib : JsonLib} (hlib : lib.Documented) (c : EncodeCall) :
    c.bufLen < UInt32.ofInt (lib.calcEncodedLen exampleJsonPayloadDescr c.mem c.payloadVar) ↔
      c.bufLen.toNat < c.measured.length := by
  have hmeasured : c.measured.length ≤ 137 := textOf_length _ _
  rw [hlib.length]
  exact lt_ofInt_iff (Nat.lt_of_le_of_lt hmeasured (by decide))

/-- A length below `2 ^ 31` is itself as an `int`. -/
theorem toInt_of_lt {n : Nat} (hn : n < 2 ^ 31) : toInt n = n :=
  Int.bmod_eq_of_le_mul_two (by omega) (by omega)

/-- The encoder succeeds when the buffer passes the check against the text it measured, and holds
the text of the payload with its NUL; otherwise it refuses. -/
theorem encode_cases {lib : JsonLib} (hlib : lib.Documented) (c : EncodeCall) :
    (c.measured.length ≤ c.bufLen.toNat ∧ c.text.length < c.bufLen.toNat ∧
      (exampleJsonCodecEncode lib c).2 = c.text.length ∧
      (exampleJsonCodecEncode lib c).1.Holds c.buf (bytes c.text ++ [0])) ∨
    ((c.bufLen.toNat < c.measured.length ∨ c.bufLen.toNat ≤ c.text.length) ∧
      (exampleJsonCodecEncode lib c).2 = -ENOMEM) := by
  have htext : c.text.length ≤ 137 := textOf_length _ _
  have hprint : ∀ ch ∈ c.text, Printable ch := textOf_printable _ _
  obtain ⟨ps, hps, hencode⟩ := hlib.encode exampleJsonPayloadDescr c.mem c.payload.toNat c.buf
    c.bufLen c.apart
  change ps.flatten = c.text at hps
  have hpieces : ps ≠ [] := by
    rintro rfl
    exact textOf_ne_nil _ _ hps.symm
  have hlen : 0 + ps.flatten.length = c.text.length := by rw [hps, Nat.zero_add]
  simp only [exampleJsonCodecEncode, check_iff hlib, hencode]
  rcases Nat.lt_or_ge c.bufLen.toNat c.measured.length with hlt | hle
  · exact .inr ⟨.inl hlt, by rw [if_pos hlt]⟩
  · rw [if_neg (Nat.not_lt.2 hle)]
    rcases Nat.lt_or_ge c.text.length c.bufLen.toNat with hfits | hfull
    · obtain ⟨hret, hholds⟩ := appendAll_fits hpieces (hlen ▸ hfits)
      rw [Nat.add_zero, hps] at hholds
      have hstrlen := Mem.strlen_of_holds hholds (bytes_ne_zero hprint)
        (by rw [bytes_length]; omega)
      rw [bytes_length] at hstrlen
      rw [if_pos hret]
      refine .inl ⟨hle, hfits, ?_, hholds⟩
      rw [hstrlen, toInt_of_lt (by omega)]
    · have hret : (appendAll c.buf c.bufLen.toNat c.mem 0 ps).2 = -ENOMEM :=
        appendAll_full (fun h => absurd h hpieces) (hlen ▸ hfull)
      rw [if_neg (by rw [hret]; decide)]
      exact .inr ⟨.inr hfull, hret⟩

/-- A buffer of 138 bytes is large enough for every payload. -/
theorem encode_large {lib : JsonLib} (hlib : lib.Documented) (c : EncodeCall)
    (hlarge : 138 ≤ c.bufLen.toNat) : (exampleJsonCodecEncode lib c).2 = c.text.length := by
  have hmeasured : c.measured.length ≤ 137 := textOf_length _ _
  have htext : c.text.length ≤ 137 := textOf_length _ _
  rcases encode_cases hlib c with ⟨-, -, hret, -⟩ | ⟨h, -⟩
  · exact hret
  · omega

/-! ## The codec's test -/

/-- The payload of the codec's test, in a memory that holds zeros or, where it is `stale`, some
other byte everywhere else; the buffer just takes the text and its NUL. -/
def testCall (stale : Bool) : EncodeCall where
  mem :=
    Mem.write (Mem.write (fun _ => if stale then 0x80 else 0) 0x20001000
      [0xd2, 0x04, 0, 0, 0x69, 0xb6, 0x01, 0, 1, 0, 0, 0, 2, 0, 0, 0, 0xf7, 0xff, 0xff, 0xff])
      0x20002000 [0x00, 0x10, 0x00, 0x20]
  payload := 0x20001000
  payloadVar := 0x20002000
  buf := 0x20001080
  bufLen := 97
  stored := by cases stale <;> decide
  apart := .inl (by decide)

/-- Whatever lies around it, the payload is that of the test. -/
theorem testCall_fields (stale : Bool) :
    (testCall stale).fields = ⟨1234, 112233, ⟨1, 2, -9⟩⟩ := by
  cases stale <;> decide +kernel

end NrfFeather
