import NrfFeather.Codec.ExampleJsonCodec

/-!
# What the text denotes

A reader of the text the encoder leaves in the buffer is to get the values of the fields of the
payload. The descriptor of `timestamp` has the token type of a signed number, while the field is
a `uint32_t`; so this is the case exactly for the timestamps that an `int32_t` can hold.
-/

namespace NrfFeather

open JsonText Memory

/-- What a payload denotes: an object with the values of the fields under their names. -/
def ExampleJsonPayload.json (p : ExampleJsonPayload) : Json :=
  .obj [
    ("timestamp", .int p.timestamp.toNat),
    ("sensor1_value", .int p.sensor1Value.toInt),
    ("sensor2_value", .obj [
      ("x_value", .int p.sensor2Value.xValue.toInt),
      ("y_value", .int p.sensor2Value.yValue.toInt),
      ("z_value", .int p.sensor2Value.zValue.toInt)])]

/-- The text a successful call has left in the buffer is read as what the payload denotes. -/
def Denotes (lib : JsonLib) (c : EncodeCall) : Prop :=
  JsonText.read (chars ((exampleJsonCodecEncode lib c).1.read c.buf
    (exampleJsonCodecEncode lib c).2.toNat)) = some c.fields.json

/-- The signed value of a word is its value where it is below `2 ^ 31`. -/
theorem toInt32_toInt_eq_iff (u : UInt32) : u.toInt32.toInt = u.toNat ↔ u.toNat < 2 ^ 31 := by
  have hu := u.toNat_lt
  have htoInt : u.toInt32.toInt = Int.bmod u.toNat (2 ^ 32) := BitVec.toInt_eq_toNat_bmod _
  rw [htoInt]
  constructor
  · intro h
    have hlt : Int.bmod u.toNat (2 ^ 32) < (2 ^ 32 + 1) / 2 := Int.bmod_lt (by decide)
    omega
  · intro h
    exact Int.bmod_eq_of_le_mul_two (by omega) (by omega)

/-- The bytes a call has left in the buffer. -/
def output (lib : JsonLib) (c : EncodeCall) : List UInt8 :=
  (exampleJsonCodecEncode lib c).1.read c.buf (exampleJsonCodecEncode lib c).2.toNat

/-- What a successful call leaves in the buffer is the text of the payload. -/
theorem output_eq {lib : JsonLib} (hlib : lib.Documented) (c : EncodeCall)
    (hok : 0 ≤ (exampleJsonCodecEncode lib c).2) : output lib c = bytes c.text := by
  rcases encode_cases hlib c with ⟨-, -, hret, hholds⟩ | ⟨-, hret⟩
  · have hread := (Mem.holds_append.1 hholds).1.read_eq
    rw [bytes_length] at hread
    rw [output, hret, Int.toNat_natCast, hread]
  · rw [hret] at hok
    exact absurd hok (by decide)

/-- Read back as characters, what a successful call leaves in the buffer is the text of the
payload. -/
theorem encode_text {lib : JsonLib} (hlib : lib.Documented) (c : EncodeCall)
    (hok : 0 ≤ (exampleJsonCodecEncode lib c).2) :
    chars ((exampleJsonCodecEncode lib c).1.read c.buf
      (exampleJsonCodecEncode lib c).2.toNat) = c.text := by
  have houtput := output_eq hlib c hok
  rw [output] at houtput
  rw [houtput]
  exact chars_bytes (textOf_printable _ _)

/-- The text differs from the payload at most in the timestamp, which it has as a signed number. -/
theorem denotes_iff_toInt {lib : JsonLib} (hlib : lib.Documented) (c : EncodeCall)
    (hok : 0 ≤ (exampleJsonCodecEncode lib c).2) :
    Denotes lib c ↔ c.fields.timestamp.toInt32.toInt = c.fields.timestamp.toNat := by
  rw [Denotes, encode_text hlib c hok]
  have hread : JsonText.read c.text = some (objectOf exampleJsonPayloadDescr c.mem
      c.payload.toNat) := Json.read_render _
  rw [hread, objectOf_payload, Option.some.injEq]
  constructor
  · intro h
    simpa [ExampleJsonPayload.json, ExampleJsonPayload.encoded, Json.int, EncodeCall.fields] using h
  · intro h
    simpa [ExampleJsonPayload.json, ExampleJsonPayload.encoded, Json.int, EncodeCall.fields] using h

/-- Whenever the encoder succeeds, a reader of its text gets the values of the payload's fields
exactly when the timestamp is below `2 ^ 31`. -/
theorem denotes_iff {lib : JsonLib} (hlib : lib.Documented) (c : EncodeCall)
    (hok : 0 ≤ (exampleJsonCodecEncode lib c).2) :
    Denotes lib c ↔ c.fields.timestamp.toNat < 2 ^ 31 :=
  (denotes_iff_toInt hlib c hok).trans (toInt32_toInt_eq_iff _)

/-- The payload of the test, with its negative field. -/
theorem denotes_test : Denotes zephyrJson (testCall false) := by
  have hmeasured : (testCall false).measured.length ≤ (testCall false).bufLen.toNat := by
    decide +kernel
  have htext : (testCall false).text.length < (testCall false).bufLen.toNat := by decide +kernel
  have hok : 0 ≤ (exampleJsonCodecEncode zephyrJson (testCall false)).2 := by
    rcases encode_cases zephyrJson_documented (testCall false) with ⟨-, -, hret, -⟩ | ⟨hsmall, -⟩
    · rw [hret]
      exact Int.natCast_nonneg _
    · omega
  refine (denotes_iff zephyrJson_documented (testCall false) hok).2 ?_
  rw [testCall_fields]
  decide

/-- A payload that is zero but for the highest byte of its timestamp, and a large buffer. -/
def timestampCall (top : UInt8) : EncodeCall where
  mem := Mem.write (Mem.write (fun _ => 0) 0x20001003 [top]) 0x20002000 [0x00, 0x10, 0x00, 0x20]
  payload := 0x20001000
  payloadVar := 0x20002000
  buf := 0x20001080
  bufLen := 256
  stored := by simp [Mem.load32, Mem.write]
  apart := .inl (by decide)

/-- The buffer is large enough. -/
theorem timestampCall_ok (top : UInt8) :
    0 ≤ (exampleJsonCodecEncode zephyrJson (timestampCall top)).2 := by
  have hlarge : 138 ≤ (timestampCall top).bufLen.toNat := Nat.le_of_ble_eq_true rfl
  rw [encode_large zephyrJson_documented (timestampCall top) hlarge]
  exact Int.natCast_nonneg _

/-- The timestamp `2 ^ 31` is encoded, but as a negative number. -/
theorem large_timestamp_negative :
    (timestampCall 0x80).fields.timestamp.toNat = 2 ^ 31 ∧
      0 ≤ (exampleJsonCodecEncode zephyrJson (timestampCall 0x80)).2 ∧
      ¬ Denotes zephyrJson (timestampCall 0x80) := by
  have hts : (timestampCall 0x80).fields.timestamp = 0x80000000 := by decide +kernel
  refine ⟨by rw [hts]; rfl, timestampCall_ok 0x80, ?_⟩
  intro h
  have hsigned := (denotes_iff_toInt zephyrJson_documented _ (timestampCall_ok 0x80)).1 h
  rw [hts] at hsigned
  exact absurd hsigned (by decide)

end NrfFeather
