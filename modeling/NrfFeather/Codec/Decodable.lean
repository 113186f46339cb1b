import NrfFeather.Codec.Denotes
import NrfFeather.Lib.PrefixCode

/-!
# Telling texts apart

A receiver gets the texts of several payloads one after the other. Each text is an object, so it
ends where its brace is closed, and the texts of different payloads are different, since every
number is printed in full; so the texts are a prefix code, and what the receiver gets determines the
payloads.
-/

namespace NrfFeather

open JsonText Memory PrefixCode

/-! ## The texts of payloads -/

/-- Integers are told apart by their JSON values. -/
theorem int_inj {m n : Int} : Json.int m = Json.int n ↔ m = n := by
  rw [Json.int, Json.int, Json.num.injEq, and_iff_left rfl]

/-- A word is known by its signed value. -/
theorem toInt32_inj {u v : UInt32} : u.toInt32 = v.toInt32 ↔ u = v :=
  ⟨fun h => congrArg Int32.toUInt32 h, congrArg UInt32.toInt32⟩

/-- Every field is there in full. -/
theorem ExampleJsonPayload.encoded_injective : Function.Injective ExampleJsonPayload.encoded := by
  rintro ⟨t, s, x, y, z⟩ ⟨t', s', x', y', z'⟩ h
  simp only [ExampleJsonPayload.encoded, Json.obj.injEq, List.cons.injEq, Prod.mk.injEq, true_and,
    and_true, int_inj, Int32.toInt_inj, toInt32_inj] at h
  obtain ⟨rfl, rfl, rfl, rfl, rfl⟩ := h
  rfl

/-- The text of an object ends with the object. -/
theorem ExampleJsonPayload.text_prefixFree : PrefixFree ExampleJsonPayload.text := by
  intro p q hpre
  exact encoded_injective (Json.render_prefix (fun _ _ h => nomatch h) hpre)

/-- No payload's bytes begin with those of another. -/
theorem bytes_prefixFree : PrefixFree fun p : ExampleJsonPayload => bytes p.text :=
  ExampleJsonPayload.text_prefixFree.map fun p => chars_bytes p.text_printable

/-- No payload has an empty text. -/
theorem bytes_ne_nil (p : ExampleJsonPayload) : bytes p.text ≠ [] := by
  rw [bytes, ne_eq, List.map_eq_nil_iff]
  exact p.text_ne_nil

/-! ## What calls leave behind -/

/-- What a list of successful calls has left in their buffers. -/
theorem flatMap_output {lib : JsonLib} (hlib : lib.Documented) {cs : List EncodeCall}
    (hok : ∀ c ∈ cs, 0 ≤ (exampleJsonCodecEncode lib c).2) :
    cs.flatMap (output lib) = (cs.map EncodeCall.fields).flatMap fun p => bytes p.text := by
  rw [List.flatMap_map, List.flatMap_def, List.flatMap_def]
  refine congrArg List.flatten (List.map_congr_left ?_)
  intro c hc
  rw [output_eq hlib c (hok c hc), c.text_eq]

/-- The texts of two successful calls are equal only for equal payloads, and none of them is a
proper prefix of the other; and the texts of successful calls, one after the other, determine the
list of the payloads. -/
theorem texts_determine_payloads {lib : JsonLib} (hlib : lib.Documented) :
    (∀ c d : EncodeCall, 0 ≤ (exampleJsonCodecEncode lib c).2 →
      0 ≤ (exampleJsonCodecEncode lib d).2 →
      (output lib c = output lib d ↔ c.fields = d.fields) ∧
        (output lib c <+: output lib d → output lib c = output lib d)) ∧
      ∀ cs ds : List EncodeCall, (∀ c ∈ cs, 0 ≤ (exampleJsonCodecEncode lib c).2) →
        (∀ d ∈ ds, 0 ≤ (exampleJsonCodecEncode lib d).2) →
        cs.flatMap (output lib) = ds.flatMap (output lib) →
        cs.map EncodeCall.fields = ds.map EncodeCall.fields := by
  refine ⟨?_, ?_⟩
  · intro c d hc hd
    rw [output_eq hlib c hc, output_eq hlib d hd, c.text_eq, d.text_eq]
    refine ⟨⟨fun h => bytes_prefixFree.injective h, fun h => by rw [h]⟩, ?_⟩
    intro h
    rw [bytes_prefixFree h]
  · intro cs ds hcs hds heq
    rw [flatMap_output hlib hcs, flatMap_output hlib hds] at heq
    exact bytes_prefixFree.flatMap_injective bytes_ne_nil heq

/-- Two payloads that differ in one bit of the timestamp, alone and in both orders. -/
theorem timestamps_told_apart :
    output zephyrJson (timestampCall 0) ≠ output zephyrJson (timestampCall 0x80) ∧
      [timestampCall 0, timestampCall 0x80].flatMap (output zephyrJson) ≠
        [timestampCall 0x80, timestampCall 0].flatMap (output zephyrJson) := by
  obtain ⟨hpair, hlist⟩ := texts_determine_payloads zephyrJson_documented
  have hne : (timestampCall 0).fields ≠ (timestampCall 0x80).fields := by decide +kernel
  have hok (tops : List UInt8) : ∀ c ∈ tops.map timestampCall,
      0 ≤ (exampleJsonCodecEncode zephyrJson c).2 := by
    intro c hc
    obtain ⟨top, -, rfl⟩ := List.mem_map.1 hc
    exact timestampCall_ok top
  refine ⟨fun heq => hne ?_, fun heq => hne ?_⟩
  · exact (hpair _ _ (timestampCall_ok 0) (timestampCall_ok 0x80)).1.1 heq
  · exact (List.cons.inj (hlist _ _ (hok [0, 0x80]) (hok [0x80, 0]) heq)).1

end NrfFeather
