import NrfFeather.Codec.Size

/-!
# The buffer after an error

A call that fails is to leave the buffer as it was: the check of its size comes before the encoder
writes anything. But the check lets a buffer pass that is as long as the text, without room for the
NUL, and it is made against the text at the address of the parameter. The encoder then writes piece
by piece, and what it has written when it comes to a piece that does not fit stays in the buffer.
`error_leaves_buffer_iff` says when the buffer is as it was for one content of it, and
`error_leaves_any_buffer_iff` when it is so for every content.
-/

namespace NrfFeather

open JsonText Memory

/-- An error leaves the buffer as it was. -/
def ErrorLeavesBuffer (lib : JsonLib) (c : EncodeCall) : Prop :=
  (exampleJsonCodecEncode lib c).2 < 0 →
    ∀ i < c.bufLen.toNat, (exampleJsonCodecEncode lib c).1 (c.buf + i) = c.mem (c.buf + i)

variable {lib : JsonLib} {cut : List Descr → Mem → Nat → List (List Char)}

/-- The pieces of the payload's text. -/
def EncodeCall.pieces (cut : List Descr → Mem → Nat → List (List Char)) (c : EncodeCall) :
    List (List Char) :=
  cut exampleJsonPayloadDescr c.mem c.payload.toNat

/-- A call that the check refuses leaves the memory as it was. -/
theorem encode_mem_of_lt (hlib : lib.Documented) (c : EncodeCall)
    (h : c.bufLen.toNat < c.measured.length) : (exampleJsonCodecEncode lib c).1 = c.mem := by
  rw [exampleJsonCodecEncode, if_pos ((check_iff hlib c).2 h)]

/-- Any other call writes the pieces that fit, whatever it returns. -/
theorem encode_mem_of_le (hlib : lib.Appends cut) (c : EncodeCall)
    (h : c.measured.length ≤ c.bufLen.toNat) :
    (exampleJsonCodecEncode lib c).1 =
      c.mem.write c.buf (stored (fitting c.bufLen.toNat 0 (c.pieces cut))) := by
  have hcheck := (not_congr (check_iff hlib.documented c)).2 (Nat.not_lt.2 h)
  have hmem : (appendAll c.buf c.bufLen.toNat c.mem 0 (c.pieces cut)).1 =
      c.mem.write (c.buf + 0) (stored (fitting c.bufLen.toNat 0 (c.pieces cut))) :=
    appendAll_mem c.mem 0 (c.pieces cut)
  rw [Nat.add_zero] at hmem
  simp only [exampleJsonCodecEncode, if_neg hcheck, hlib.encode _ _ _ _ _ c.apart]
  rw [← hmem]
  split <;> rfl

/-- A call that the check refuses leaves the buffer as it was. -/
theorem ErrorLeavesBuffer.of_measured (hlib : lib.Documented) (c : EncodeCall)
    (h : c.bufLen.toNat < c.measured.length) : ErrorLeavesBuffer lib c := by
  intro _ i _
  rw [encode_mem_of_lt hlib c h]

/-- A text that fits with its NUL is refused by the check or not at all. -/
theorem ErrorLeavesBuffer.of_text (hlib : lib.Documented) (c : EncodeCall)
    (h : c.text.length < c.bufLen.toNat) : ErrorLeavesBuffer lib c := by
  rcases encode_cases hlib c with ⟨-, -, hret, -⟩ | ⟨hlt | hfull, -⟩
  · intro hneg
    rw [hret] at hneg
    omega
  · exact .of_measured hlib c hlt
  · omega

/-- Where the check lets a buffer pass that the text does not fit, the buffer is as it was only if
the pieces that fit are in it already. -/
theorem errorLeavesBuffer_iff_holds (hlib : lib.Appends cut) (c : EncodeCall)
    (hmeasured : c.measured.length ≤ c.bufLen.toNat) (htext : c.bufLen.toNat ≤ c.text.length) :
    ErrorLeavesBuffer lib c ↔
      c.mem.Holds c.buf (stored (fitting c.bufLen.toNat 0 (c.pieces cut))) := by
  have hlen : (stored (fitting c.bufLen.toNat 0 (c.pieces cut))).length ≤ c.bufLen.toNat :=
    stored_fitting_length 0 (c.pieces cut)
  have hneg : (exampleJsonCodecEncode lib c).2 < 0 := by
    rcases encode_cases hlib.documented c with ⟨-, hfits, -⟩ | ⟨-, hret⟩
    · omega
    · rw [hret]
      decide
  rw [ErrorLeavesBuffer, encode_mem_of_le hlib c hmeasured, Mem.write_same_iff hlen]
  exact forall_prop_of_true hneg

/-- Exactly when the check refuses the buffer, the text fits with its NUL, or the pieces that fit
are in the buffer already, an error leaves the buffer as it was. -/
theorem error_leaves_buffer_iff (hlib : lib.Appends cut) (c : EncodeCall) :
    ErrorLeavesBuffer lib c ↔
      c.bufLen.toNat < c.measured.length ∨ c.text.length < c.bufLen.toNat ∨
        c.mem.Holds c.buf (stored (fitting c.bufLen.toNat 0 (c.pieces cut))) := by
  rcases Nat.lt_or_ge c.bufLen.toNat c.measured.length with hlt | hle
  · exact iff_of_true (.of_measured hlib.documented c hlt) (.inl hlt)
  · rcases Nat.lt_or_ge c.text.length c.bufLen.toNat with hfits | hfull
    · exact iff_of_true (.of_text hlib.documented c hfits) (.inr (.inl hfits))
    · rw [errorLeavesBuffer_iff_holds hlib c hle hfull, or_iff_right (Nat.not_lt.2 hle),
        or_iff_right (Nat.not_lt.2 hfull)]

/-! ## Any prior content -/

/-- The same call, but for what lies in the buffer before it. -/
structure EncodeCall.SameOutside (c d : EncodeCall) : Prop where
  payload : d.payload = c.payload
  payloadVar : d.payloadVar = c.payloadVar
  buf : d.buf = c.buf
  bufLen : d.bufLen = c.bufLen
  mem : ∀ x, ¬ (c.buf ≤ x ∧ x < c.buf + c.bufLen.toNat) → d.mem x = c.mem x

section
variable {c d : EncodeCall}

/-- A struct apart from the buffer has the same text. -/
theorem EncodeCall.SameOutside.textOf_eq (h : c.SameOutside d) {a : Nat}
    (ha : Apart a 20 c.buf c.bufLen.toNat) :
    textOf exampleJsonPayloadDescr d.mem a = textOf exampleJsonPayloadDescr c.mem a := by
  have hload : ExampleJsonPayload.load d.mem a = ExampleJsonPayload.load c.mem a := by
    refine ExampleJsonPayload.load_congr fun i hi => h.mem (a + i) ?_
    rcases ha with hbefore | hafter
    · omega
    · omega
  rw [textOf_payload, textOf_payload, hload]

/-- The payload lies apart from the buffer, so its text is the same. -/
theorem EncodeCall.SameOutside.text_eq (h : c.SameOutside d) : d.text = c.text := by
  rw [EncodeCall.text, h.payload]
  exact h.textOf_eq c.apart

/-- So is the text that is measured, where it lies apart from the buffer too. -/
theorem EncodeCall.SameOutside.measured_eq (h : c.SameOutside d)
    (hvar : Apart c.payloadVar 20 c.buf c.bufLen.toNat) : d.measured = c.measured := by
  rw [EncodeCall.measured, h.payloadVar]
  exact h.textOf_eq hvar

/-- The call with a zero at the beginning of its buffer. -/
def EncodeCall.zeroed (c : EncodeCall) (hpos : 0 < c.bufLen.toNat)
    (hvar : Apart c.payloadVar 20 c.buf c.bufLen.toNat) : EncodeCall where
  mem := c.mem.write c.buf [0]
  payload := c.payload
  payloadVar := c.payloadVar
  buf := c.buf
  bufLen := c.bufLen
  stored := by
    have hload : ExampleJsonPayload.load (c.mem.write c.buf [0]) c.payloadVar =
        ExampleJsonPayload.load c.mem c.payloadVar := by
      refine ExampleJsonPayload.load_congr fun i hi => Mem.write_outside ?_
      rw [List.length_singleton]
      rcases hvar with hbefore | hafter
      · omega
      · omega
    exact (congrArg ExampleJsonPayload.timestamp hload).trans c.stored
  apart := c.apart

/-- It differs in the buffer only. -/
theorem EncodeCall.sameOutside_zeroed {hpos : 0 < c.bufLen.toNat}
    {hvar : Apart c.payloadVar 20 c.buf c.bufLen.toNat} : c.SameOutside (c.zeroed hpos hvar) := by
  refine ⟨rfl, rfl, rfl, rfl, fun x hx => Mem.write_outside ?_⟩
  rw [List.length_singleton]
  omega

/-- A buffer that begins with a zero holds nothing that begins with a brace. -/
theorem not_holds_of_zero {m : Mem} {buf size : Nat} {ps : List (List Char)} (hzero : m buf = 0)
    (hsize : 1 < size) : ¬ m.Holds buf (stored (fitting size 0 (['{'] :: ps))) := by
  intro hholds
  have hroom : ¬ size - 0 ≤ ['{'].length := Nat.not_le.2 hsize
  rw [fitting, if_neg hroom] at hholds
  have hbrace : m (buf + 0) = 0x7b := hholds 0 (Nat.zero_lt_succ _)
  rw [Nat.add_zero, hzero] at hbrace
  cases hbrace

/-- Where the library appends the opening brace by itself, and the buffer is apart from what is
measured, an error leaves the buffer as it was whatever it held exactly when the check refuses the
buffer or the text fits with its NUL. -/
theorem error_leaves_any_buffer_iff (hlib : lib.Appends cut)
    (hopen : ∀ m a, ∃ ps, cut exampleJsonPayloadDescr m a = ['{'] :: ps)
    (hvar : Apart c.payloadVar 20 c.buf c.bufLen.toNat) :
    (∀ d, c.SameOutside d → ErrorLeavesBuffer lib d) ↔
      c.bufLen.toNat < c.measured.length ∨ c.text.length < c.bufLen.toNat := by
  constructor
  · intro h
    rcases Nat.lt_or_ge c.bufLen.toNat c.measured.length with hlt | hle
    · exact .inl hlt
    · refine .inr (Nat.lt_of_not_le fun hfull => ?_)
      have hlen : 1 < c.bufLen.toNat := Nat.lt_of_lt_of_le (one_lt_textOf_length _ _) hle
      have hpos : 0 < c.bufLen.toNat := Nat.zero_lt_of_lt hlen
      have hsame : c.SameOutside (c.zeroed hpos hvar) := c.sameOutside_zeroed
      have hmeasured : (c.zeroed hpos hvar).measured.length ≤ c.bufLen.toNat := by
        rw [hsame.measured_eq hvar]
        exact hle
      have htext : c.bufLen.toNat ≤ (c.zeroed hpos hvar).text.length := by
        rw [hsame.text_eq]
        exact hfull
      have hholds := (errorLeavesBuffer_iff_holds hlib _ hmeasured htext).1 (h _ hsame)
      obtain ⟨ps, hps⟩ := hopen (c.zeroed hpos hvar).mem c.payload.toNat
      have hpieces : (c.zeroed hpos hvar).pieces cut = ['{'] :: ps := hps
      rw [hpieces] at hholds
      exact not_holds_of_zero (c.mem.write_holds c.buf [0] 0 Nat.zero_lt_one) hlen hholds
  · rintro (hlt | hfits) d hd
    · refine .of_measured hlib.documented d ?_
      rw [hd.bufLen, hd.measured_eq hvar]
      exact hlt
    · refine .of_text hlib.documented d ?_
      rw [hd.bufLen, hd.text_eq]
      exact hfits

end

/-- The payload of the codec's test, on a stack of zeros, and a buffer of some length. -/
def sizedCall (bufLen : UInt32) : EncodeCall where
  mem := (testCall false).mem
  payload := (testCall false).payload
  payloadVar := (testCall false).payloadVar
  buf := (testCall false).buf
  bufLen := bufLen
  stored := (testCall false).stored
  apart := .inl (by decide)

/-- This library appends the opening brace by itself. -/
theorem zephyrJson_opens (m : Mem) (a : Nat) :
    ∃ ps, pieces (objectOf exampleJsonPayloadDescr m a) = ['{'] :: ps :=
  ⟨_, rfl⟩

/-- The small buffer of the test, whatever it holds. -/
example : ∀ d, (sizedCall 8).SameOutside d → ErrorLeavesBuffer zephyrJson d :=
  (error_leaves_any_buffer_iff zephyrJson_appends zephyrJson_opens (.inr (by decide))).2
    (.inl (by decide +kernel))

/-- The small buffer of the test. -/
theorem small_buffer_left : ErrorLeavesBuffer zephyrJson (sizedCall 8) :=
  (error_leaves_buffer_iff zephyrJson_appends (sizedCall 8)).2 (.inl (by decide +kernel))

/-- A buffer as long as the text passes the check, and is refused with the text but for its last
brace in it. -/
theorem exact_buffer_overwritten :
    zephyrJson.Appends (fun ds m a => pieces (objectOf ds m a)) ∧
      (sizedCall 96).text.length = 96 ∧
      (exampleJsonCodecEncode zephyrJson (sizedCall 96)).2 = -ENOMEM ∧
      ¬ ErrorLeavesBuffer zephyrJson (sizedCall 96) := by
  have htext : (sizedCall 96).text.length = 96 := by decide +kernel
  have hret : (exampleJsonCodecEncode zephyrJson (sizedCall 96)).2 = -ENOMEM := by decide +kernel
  have hbefore : (sizedCall 96).mem ((sizedCall 96).buf + 0) = 0 := by decide +kernel
  have hafter : (exampleJsonCodecEncode zephyrJson (sizedCall 96)).1 ((sizedCall 96).buf + 0) =
      0x7b := by decide +kernel
  refine ⟨zephyrJson_appends, htext, hret, ?_⟩
  intro h
  have hsame := h (by rw [hret]; decide) 0 (by decide)
  rw [hbefore, hafter] at hsame
  exact absurd hsame (by decide)

end NrfFeather
