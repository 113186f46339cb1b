import Mathlib.InformationTheory.Coding.UniquelyDecodable
import Mathlib.Data.List.Basic

/-!
# Prefix codes

A code is prefix-free when no code word begins with the word of something else. The words of such a
code can be told apart in any concatenation: the set of words is uniquely decodable
(`PrefixFree.uniquelyDecodable`), so that a concatenation determines the list that was encoded
(`PrefixFree.flatMap_injective`). `PrefixFree.map` is for words that are written in another
alphabet.
-/

namespace PrefixCode

open InformationTheory

variable {α β γ : Type*}

/-- No word begins with the word of something else. -/
def PrefixFree (f : α → List β) : Prop := ∀ ⦃a b⦄, f a <+: f b → a = b

variable {f : α → List β}

/-- A prefix-free code is injective. -/
theorem PrefixFree.injective (h : PrefixFree f) : Function.Injective f :=
  fun a _ heq => h (heq ▸ List.prefix_refl (f a))

/-- The first words of two concatenations, and what follows them. -/
theorem PrefixFree.append_inj (h : PrefixFree f) {a b : α} {r s : List β}
    (heq : f a ++ r = f b ++ s) : a = b ∧ r = s := by
  have hab : a = b := by
    rcases List.prefix_or_prefix_of_prefix (List.prefix_append (f a) r)
      ⟨s, heq.symm⟩ with hpre | hpre
    · exact h hpre
    · exact (h hpre).symm
  subst hab
  exact ⟨rfl, List.append_cancel_left heq⟩

/-- Only the empty word could be read any number of times. -/
theorem PrefixFree.uniquelyDecodable (h : PrefixFree f) (hne : ∀ a, f a ≠ []) :
    UniquelyDecodable (Set.range f) := by
  intro L₁ L₂ h₁ h₂ heq
  induction L₁ generalizing L₂ with
  | nil =>
    cases L₂ with
    | nil => rfl
    | cons w L₂ =>
      obtain ⟨⟨a, rfl⟩, -⟩ := List.forall_mem_cons.1 h₂
      exact absurd (List.append_eq_nil_iff.1 heq.symm).1 (hne a)
  | cons v L₁ ih =>
    obtain ⟨⟨a, rfl⟩, hL₁⟩ := List.forall_mem_cons.1 h₁
    cases L₂ with
    | nil => exact absurd (List.append_eq_nil_iff.1 heq).1 (hne a)
    | cons w L₂ =>
      obtain ⟨⟨b, rfl⟩, hL₂⟩ := List.forall_mem_cons.1 h₂
      rw [List.flatten_cons, List.flatten_cons] at heq
      obtain ⟨rfl, hrest⟩ := h.append_inj heq
      rw [ih L₂ hL₁ hL₂ hrest]

/-- A concatenation of words determines what was encoded. -/
theorem PrefixFree.flatMap_injective (h : PrefixFree f) (hne : ∀ a, f a ≠ []) :
    Function.Injective (List.flatMap f) := by
  intro xs ys heq
  have hmem (zs : List α) : ∀ w ∈ zs.map f, w ∈ Set.range f := by
    intro w hw
    obtain ⟨a, -, rfl⟩ := List.mem_map.1 hw
    exact ⟨a, rfl⟩
  have hwords : xs.map f = ys.map f := by
    refine h.uniquelyDecodable hne _ _ (hmem xs) (hmem ys) ?_
    rwa [← List.flatMap_def, ← List.flatMap_def]
  exact h.injective.list_map hwords

/-- Words whose letters are replaced by others from which they can be got back. -/
theorem PrefixFree.map (h : PrefixFree f) {g : β → γ} {unmap : γ → β}
    (hunmap : ∀ a, ((f a).map g).map unmap = f a) : PrefixFree fun a => (f a).map g := by
  intro a b hpre
  have hpre := hpre.map unmap
  rw [hunmap, hunmap] at hpre
  exact h hpre

end PrefixCode
