import NrfFeather.Codec.ExampleJsonCodec

/-!
# Result and buffer size

The encoder is to return the length of the text when the buffer takes the text with its NUL, and
`-ENOMEM` when it does not. It does so unless the text it measures at the address of its parameter
is too long for a buffer that the text of the payload would fit: then it refuses the buffer, and
what it returns depends on what happens to lie on the stack.
-/

namespace NrfFeather

open JsonText Memory

/-- The result is that of the payload and the size of the buffer. -/
structure EncodesExactly (lib : JsonLib) (c : EncodeCall) : Prop where
  fits : c.text.length + 1 ≤ c.bufLen.toNat →
    (exampleJsonCodecEncode lib c).2 = c.text.length ∧
      (exampleJsonCodecEncode lib c).1.Holds c.buf (bytes c.text ++ [0])
  refused : c.bufLen.toNat ≤ c.text.length → (exampleJsonCodecEncode lib c).2 = -ENOMEM

/-- The encoder does what it should exactly when the buffer is too small for the payload anyway,
or large enough for the text measured at the address of the parameter. -/
theorem encodes_exactly_iff {lib : JsonLib} (hlib : lib.Documented) (c : EncodeCall) :
    EncodesExactly lib c ↔
      c.bufLen.toNat ≤ c.text.length ∨ c.measured.length ≤ c.bufLen.toNat := by
  constructor
  · intro h
    rcases encode_cases hlib c with ⟨hmeasured, -⟩ | ⟨hm | ht, hret⟩
    · exact .inr hmeasured
    · refine .inl (Nat.le_of_not_lt ?_)
      intro htext
      rw [(h.fits htext).1] at hret
      simp only [ENOMEM] at hret
      omega
    · exact .inl ht
  · intro h
    rcases encode_cases hlib c with ⟨-, htext, hret, hholds⟩ | ⟨hsmall, hret⟩
    · exact ⟨fun _ => ⟨hret, hholds⟩, fun hfull => absurd htext (by omega)⟩
    · exact ⟨fun hfits => by omega, fun _ => hret⟩

/-- Where the encoder does what it should, its result depends on the payload's fields and the size
of the buffer alone. -/
theorem EncodesExactly.agree {lib : JsonLib} {c d : EncodeCall} (hc : EncodesExactly lib c)
    (hd : EncodesExactly lib d) (hfields : c.fields = d.fields) (hlen : c.bufLen = d.bufLen) :
    (exampleJsonCodecEncode lib c).2 = (exampleJsonCodecEncode lib d).2 := by
  have htext : c.text = d.text := by rw [c.text_eq, d.text_eq, hfields]
  rcases Nat.lt_or_ge c.text.length c.bufLen.toNat with h | h
  · rw [(hc.fits h).1, (hd.fits (by rw [← htext, ← hlen]; exact h)).1, htext]
  · rw [hc.refused h, hd.refused (by rw [← htext, ← hlen]; exact h)]

/-- With zeros on the stack, the test succeeds. -/
theorem encodes_exactly_test : EncodesExactly zephyrJson (testCall false) :=
  (encodes_exactly_iff zephyrJson_documented (testCall false)).2 (.inr (by decide +kernel))

/-- Two calls with the same payload and buffer return different values, since the stack is
different; the second refuses a buffer that is large enough. -/
theorem stale_stack_refused :
    (testCall true).fields = (testCall false).fields ∧
      (testCall true).bufLen = (testCall false).bufLen ∧
      (exampleJsonCodecEncode zephyrJson (testCall false)).2 = 96 ∧
      (exampleJsonCodecEncode zephyrJson (testCall true)).2 = -ENOMEM ∧
      ¬ EncodesExactly zephyrJson (testCall true) := by
  have hlen (stale : Bool) : (testCall stale).text.length = 96 := by
    cases stale <;> decide +kernel
  have hsize (stale : Bool) : (testCall stale).bufLen.toNat = 97 := rfl
  have hzeros : (testCall false).measured.length = 95 := by decide +kernel
  have hstale : (testCall true).measured.length = 135 := by decide +kernel
  have hok : (exampleJsonCodecEncode zephyrJson (testCall false)).2 = 96 := by
    rcases encode_cases zephyrJson_documented (testCall false) with ⟨-, -, hret, -⟩ | ⟨h, -⟩
    · rw [hret, hlen]
      rfl
    · rw [hlen, hzeros, hsize] at h
      omega
  have hrefused : (exampleJsonCodecEncode zephyrJson (testCall true)).2 = -ENOMEM := by
    rcases encode_cases zephyrJson_documented (testCall true) with ⟨h, -⟩ | ⟨-, hret⟩
    · rw [hstale, hsize] at h
      omega
    · exact hret
  refine ⟨(testCall_fields true).trans (testCall_fields false).symm, rfl, hok, hrefused,
    fun h => ?_⟩
  have hfits : (testCall true).text.length < (testCall true).bufLen.toNat := by
    have htext := hlen true
    have hbuf := hsize true
    omega
  have hret := (h.fits hfits).1
  rw [hrefused, hlen] at hret
  exact absurd hret (by decide)

end NrfFeather
