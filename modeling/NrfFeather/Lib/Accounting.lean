import NrfFeather.Lib.Transition

/-!
# What the labels of a run account for

Rules that relate the labels of a run to the states it leads through. `Run.count_le` bounds how
often something is begun by how often it was asked for, and `Run.answered` is the rule for requests
that stay pending until they are taken up: when none is pending, each request of the run has been
followed by a beginning.
-/

namespace Transition

variable {σ Λ : Type} {step : σ → Λ → σ → Prop} {s t : σ} {ls : List Λ}

/-- The labels with a property are at most those with another, if each step that carries one takes
something away that only the others put there. -/
theorem Run.count_le (h : Run step s ls t) {f : σ → Nat} {begins asks : Λ → Bool}
    (hf : ∀ s l t, step s l t → f t + (begins l).toNat ≤ f s + (asks l).toNat) :
    f t + ls.countP begins ≤ f s + ls.countP asks := by
  induction h with
  | nil s => exact Nat.le_refl _
  | cons hl _ ih =>
    have hcount := hf _ _ _ hl
    simp only [List.countP_cons]
    cases hb : begins _ <;> cases ha : asks _ <;>
      simp only [hb, ha, Bool.toNat_false, Bool.toNat_true] at hcount <;> simp <;> omega

/-- The same where the steps take away and put there exactly. -/
theorem Run.count_eq (h : Run step s ls t) {f : σ → Nat} {begins asks : Λ → Bool}
    (hf : ∀ s l t, step s l t → f t + (begins l).toNat = f s + (asks l).toNat) :
    f t + ls.countP begins = f s + ls.countP asks := by
  induction h with
  | nil s => rfl
  | cons hl _ ih =>
    have hcount := hf _ _ _ hl
    simp only [List.countP_cons]
    cases hb : begins _ <;> cases ha : asks _ <;>
      simp only [hb, ha, Bool.toNat_false, Bool.toNat_true] at hcount <;> simp <;> omega

/-- Every label that asks is followed, later, by one that begins. -/
def Answered (asks begins : Λ → Prop) (ls : List Λ) : Prop :=
  ∀ pre l post, ls = pre ++ l :: post → asks l → ∃ m ∈ post, begins m

variable {asks begins : Λ → Prop}

/-- While something is pending it stays so until something is begun. -/
theorem Run.exists_begins (h : Run step s ls t) {pending : σ → Prop}
    (hstays : ∀ s l t, step s l t → pending s → pending t ∨ begins l) (hs : pending s)
    (ht : ¬ pending t) : ∃ m ∈ ls, begins m := by
  induction h with
  | nil => exact absurd hs ht
  | cons hl _ ih =>
    rcases hstays _ _ _ hl hs with hp | hb
    · obtain ⟨m, hm, hb⟩ := ih hp ht
      exact ⟨m, .tail _ hm, hb⟩
    · exact ⟨_, .head _, hb⟩

/-- What is asked for is pending, so when nothing is pending everything has been answered. -/
theorem Run.answered (h : Run step s ls t) {pending : σ → Prop}
    (hasks : ∀ s l t, step s l t → asks l → pending t)
    (hstays : ∀ s l t, step s l t → pending s → pending t ∨ begins l) (ht : ¬ pending t) :
    Answered asks begins ls := by
  rintro pre l post rfl ha
  obtain ⟨u, -, hu⟩ := h.append_inv
  cases hu with
  | cons hl hrest => exact hrest.exists_begins hstays (hasks _ _ _ hl ha) ht

end Transition
