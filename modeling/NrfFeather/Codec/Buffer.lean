import NrfFeather.Codec.Atomic
import NrfFeather.Lib.Transition

/-!
# The buffer

What a caller of the encoder can rely on, whatever the payload is and whatever lies on the stack: a
buffer of 138 bytes is always large enough, but no smaller one is (`buffer_suffices_iff`). The
encoder writes nothing outside its buffer (`encode_outside`), so that over any calls and stores in
one memory a text stays in its buffer until something is written there (`texts_kept`).
-/

namespace NrfFeather

open JsonText Memory Transition

variable {lib : JsonLib}

/-- The payload with the longest text. -/
def longestCall (bufLen : UInt32) : EncodeCall where
  mem := Mem.write (Mem.write (fun _ => 0) 0x20001000
    [0, 0, 0, 0x80, 0, 0, 0, 0x80, 0, 0, 0, 0x80, 0, 0, 0, 0x80, 0, 0, 0, 0x80])
    0x20002000 [0x00, 0x10, 0x00, 0x20]
  payload := 0x20001000
  payloadVar := 0x20002000
  buf := 0x20001080
  bufLen := bufLen
  stored := by decide
  apart := .inl (by decide)

/-- Its text has 137 characters. -/
theorem longestCall_text (bufLen : UInt32) : (longestCall bufLen).text.length = 137 := by
  have hlen : (longestCall 0).text.length = 137 := by decide +kernel
  exact hlen

/-- Exactly the buffers of at least 138 bytes take every payload, whatever lies on the stack. -/
theorem buffer_suffices_iff (hlib : lib.Documented) (bufLen : UInt32) :
    (∀ c : EncodeCall, c.bufLen = bufLen →
      (exampleJsonCodecEncode lib c).2 = c.text.length ∧
        (exampleJsonCodecEncode lib c).1.Holds c.buf (bytes c.text ++ [0])) ↔
      138 ≤ bufLen.toNat := by
  constructor
  · intro h
    have hret := (h (longestCall bufLen) rfl).1
    rw [longestCall_text] at hret
    have hlen := longestCall_text bufLen
    rcases encode_cases hlib (longestCall bufLen) with ⟨-, htext, -, -⟩ | ⟨-, hrefused⟩
    · rw [hlen] at htext
      exact htext
    · rw [hrefused] at hret
      exact absurd hret (by decide)
  · rintro hlarge c rfl
    have hmeasured : c.measured.length ≤ 137 := textOf_length _ _
    have htext : c.text.length ≤ 137 := textOf_length _ _
    rcases encode_cases hlib c with ⟨-, -, hret, hholds⟩ | ⟨h, -⟩
    · exact ⟨hret, hholds⟩
    · omega

/-- A buffer of 138 bytes takes the longest text. -/
theorem buffer_suffices_iff_test :
    (exampleJsonCodecEncode zephyrJson (longestCall 138)).2 = 137 := by
  have hlarge := (buffer_suffices_iff zephyrJson_documented 138).2 (Nat.le_refl 138)
  rw [(hlarge (longestCall 138) rfl).1, longestCall_text]
  rfl

/-! ## What a call writes -/

/-- The memory after a call is that before it, but for some bytes written to the buffer. -/
theorem encode_mem (hlib : lib.Documented) (c : EncodeCall) :
    ∃ bs : List UInt8, bs.length ≤ c.bufLen.toNat ∧
      (exampleJsonCodecEncode lib c).1 = c.mem.write c.buf bs := by
  obtain ⟨ps, -, hencode⟩ := hlib.encode exampleJsonPayloadDescr c.mem c.payload.toNat c.buf
    c.bufLen c.apart
  have hmem : (appendAll c.buf c.bufLen.toNat c.mem 0 ps).1 =
      c.mem.write c.buf (stored (fitting c.bufLen.toNat 0 ps)) := appendAll_mem c.mem 0 ps
  simp only [exampleJsonCodecEncode, hencode]
  split
  · exact ⟨[], Nat.zero_le _, (Mem.write_nil _ _).symm⟩
  · refine ⟨stored (fitting c.bufLen.toNat 0 ps), stored_fitting_length 0 ps, ?_⟩
    rw [← hmem]
    split
    · rfl
    · rfl

/-- A call changes nothing outside its buffer, whatever it returns. -/
theorem encode_outside (hlib : lib.Documented) (c : EncodeCall) {x : Nat}
    (hx : ¬ (c.buf ≤ x ∧ x < c.buf + c.bufLen.toNat)) :
    (exampleJsonCodecEncode lib c).1 x = c.mem x := by
  obtain ⟨bs, hlen, hmem⟩ := encode_mem hlib c
  rw [hmem]
  exact Mem.write_outside (by omega)

/-! ## Calls in one memory -/

/-- What happens to a memory: a call of the encoder, or bytes that something else stores. -/
inductive MemLabel where
  | encode (c : EncodeCall)
  | store (a : Nat) (bs : List UInt8)

/-- The byte at `x` may change. -/
def MemLabel.Touches (x : Nat) : MemLabel → Prop
  | .encode c => c.buf ≤ x ∧ x < c.buf + c.bufLen.toNat
  | .store a bs => a ≤ x ∧ x < a + bs.length

def MemStep (lib : JsonLib) (m : Mem) (l : MemLabel) (m' : Mem) : Prop :=
  match l with
  | .encode c => c.mem = m ∧ m' = (exampleJsonCodecEncode lib c).1
  | .store a bs => m' = m.write a bs

/-- A step changes only the bytes it touches. -/
theorem MemStep.keeps (hlib : lib.Documented) {m m' : Mem} {l : MemLabel} (h : MemStep lib m l m')
    {x : Nat} (hx : ¬ l.Touches x) : m' x = m x := by
  cases l with
  | encode c =>
    obtain ⟨rfl, rfl⟩ := h
    exact encode_outside hlib c hx
  | store a bs =>
    obtain rfl : m' = m.write a bs := h
    exact Mem.write_outside hx

/-- A byte that no step touches is the same at the end. -/
theorem MemRun.keeps (hlib : lib.Documented) {m m' : Mem} {ls : List MemLabel}
    (h : Run (MemStep lib) m ls m') {x : Nat} (hx : ∀ l ∈ ls, ¬ l.Touches x) : m' x = m x :=
  (h.guard hx).invariant (I := fun m₁ : Mem => m₁ x = m x)
    (fun _ _ _ hs hl => (MemStep.keeps hlib hl.2 hl.1).trans hs) rfl

/-- The text of a payload that nothing changes before the call stays in a buffer that nothing
writes to after it, whatever else is encoded and stored before and after. -/
theorem texts_kept (hlib : lib.Documented) {m m' : Mem} {pre post : List MemLabel} {c : EncodeCall}
    (h : Run (MemStep lib) m (pre ++ .encode c :: post) m')
    (hpayload : ∀ l ∈ pre, ∀ i < 20, ¬ l.Touches (c.payload.toNat + i))
    (hbuf : ∀ l ∈ post, ∀ i < c.bufLen.toNat, ¬ l.Touches (c.buf + i)) :
    ((exampleJsonCodecEncode lib c).2 = (ExampleJsonPayload.load m c.payload.toNat).text.length ∧
      m'.Holds c.buf (bytes (ExampleJsonPayload.load m c.payload.toNat).text ++ [0])) ∨
    ((exampleJsonCodecEncode lib c).2 = -ENOMEM ∧ c.bufLen.toNat < 138) := by
  obtain ⟨m₁, hpre, hrest⟩ := h.append_inv
  cases hrest with
  | cons hl hpost =>
    obtain ⟨rfl, rfl⟩ := hl
    have hload : c.fields = ExampleJsonPayload.load m c.payload.toNat :=
      ExampleJsonPayload.load_congr fun i hi =>
        MemRun.keeps hlib hpre fun l hl => hpayload l hl i hi
    rw [← hload, ← c.text_eq]
    have htext : c.text.length ≤ 137 := textOf_length _ _
    have hmeasured : c.measured.length ≤ 137 := textOf_length _ _
    rcases encode_cases hlib c with ⟨-, hfits, hret, hholds⟩ | ⟨hsmall, hret⟩
    · refine .inl ⟨hret, hholds.congr fun x hx hlt => ?_⟩
      obtain ⟨i, rfl⟩ := Nat.exists_eq_add_of_le hx
      rw [List.length_append, bytes_length, List.length_singleton] at hlt
      exact MemRun.keeps hlib hpost fun l hl => hbuf l hl i (by omega)
    · exact .inr ⟨hret, by omega⟩

/-- The payload is overwritten once its text is in the buffer. -/
theorem texts_kept_test :
    ∃ m', Run (MemStep zephyrJson) (longestCall 138).mem
        [.encode (longestCall 138), .store 0x20001000 [1, 2, 3, 4]] m' ∧
      m'.Holds 0x20001080 (bytes (longestCall 138).text ++ [0]) := by
  have hrun : Run (MemStep zephyrJson) (longestCall 138).mem
      ([] ++ .encode (longestCall 138) :: [.store 0x20001000 [1, 2, 3, 4]]) _ :=
    .cons ⟨rfl, rfl⟩ (.cons rfl (.nil _))
  have hbuf : ∀ l ∈ [MemLabel.store 0x20001000 [1, 2, 3, 4]],
      ∀ i < (longestCall 138).bufLen.toNat, ¬ l.Touches ((longestCall 138).buf + i) := by
    refine List.forall_mem_singleton.2 fun i _ htouches => ?_
    have hlt : 0x20001080 + i < 0x20001000 + 4 := htouches.2
    omega
  have hkept := texts_kept zephyrJson_documented hrun (fun _ hl => absurd hl List.not_mem_nil) hbuf
  exact ⟨_, hrun, (hkept.resolve_right fun h => absurd h.2 (Nat.lt_irrefl 138)).2⟩

end NrfFeather
