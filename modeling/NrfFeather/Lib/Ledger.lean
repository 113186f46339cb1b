/-!
# Resources along a trace

A call hands out a resource; later calls use it, and one gives it back. A `Ledger` says which event
of a trace does what, and where each resource belongs. A trace is `Settled` if every resource that
is acquired in it is released once afterwards, to where it belongs, and left alone from then on.

`settled_cons` takes a trace apart event by event, and `Settled.append` puts two together; the
lemmas about `ReleasedIn` move to the place of the release.
-/

namespace Resources

/-- What the events `ε` of a trace do to resources `B`, each of which belongs to one of `H`. -/
structure Ledger (ε B H : Type) where
  acquires : ε → Option B
  /-- The resource that is released, and where to. -/
  releases : ε → Option (B × H)
  Uses : B → ε → Prop
  home : B → H

namespace Ledger

variable {ε B H : Type} (L : Ledger ε B H)

/-- The event neither acquires nor releases anything. -/
def Silent (e : ε) : Prop := L.acquires e = none ∧ L.releases e = none

def Touches (b : B) (e : ε) : Prop := L.Uses b e ∨ ∃ h, L.releases e = some (b, h)

/-- The first release of the resource is to where it belongs, and nothing touches it later. -/
def ReleasedIn (b : B) (t : List ε) : Prop :=
  ∃ u e v, t = u ++ e :: v ∧ (∀ f ∈ u, ∀ h, L.releases f ≠ some (b, h)) ∧
    L.releases e = some (b, L.home b) ∧ ∀ f ∈ v, ¬ L.Touches b f

/-- Whatever is acquired in the trace is released in the rest of it. -/
def Settled (t : List ε) : Prop :=
  ∀ t₁ e t₂, t = t₁ ++ e :: t₂ → ∀ b, L.acquires e = some b → L.ReleasedIn b t₂

variable {L} {b : B} {e : ε} {t u : List ε}

/-! ## Releases -/

/-- A silent event releases nothing. -/
theorem Silent.releases_ne (he : L.Silent e) (h : H) : L.releases e ≠ some (b, h) := by
  rw [he.2]
  exact (Option.some_ne_none _).symm

/-- What is released is released by some event, and where it belongs. -/
theorem ReleasedIn.exists (h : L.ReleasedIn b t) : ∃ e ∈ t, L.releases e = some (b, L.home b) := by
  obtain ⟨u, e, v, rfl, -, he, -⟩ := h
  exact ⟨e, List.mem_append_right u (.head v), he⟩

/-- Released right away. -/
theorem releasedIn_cons (he : L.releases e = some (b, L.home b))
    (ht : ∀ f ∈ t, ¬ L.Touches b f) : L.ReleasedIn b (e :: t) :=
  ⟨[], e, t, rfl, nofun, he, ht⟩

/-- An event that does not release the resource does not matter. -/
theorem releasedIn_cons_iff (he : ∀ h, L.releases e ≠ some (b, h)) :
    L.ReleasedIn b (e :: t) ↔ L.ReleasedIn b t := by
  refine ⟨?_, ?_⟩
  · rintro ⟨u, f, v, heq, hu, hf, hv⟩
    cases u with
    | nil =>
      obtain ⟨rfl, -⟩ := List.cons.inj heq
      exact absurd hf (he _)
    | cons g u =>
      obtain ⟨-, rfl⟩ := List.cons.inj heq
      exact ⟨u, f, v, rfl, (List.forall_mem_cons.1 hu).2, hf, hv⟩
  · rintro ⟨u, f, v, rfl, hu, hf, hv⟩
    exact ⟨e :: u, f, v, rfl, List.forall_mem_cons.2 ⟨he, hu⟩, hf, hv⟩

/-- Events that do not release the resource can be skipped. -/
theorem releasedIn_append_iff (ht : ∀ f ∈ t, ∀ h, L.releases f ≠ some (b, h)) :
    L.ReleasedIn b (t ++ u) ↔ L.ReleasedIn b u := by
  induction t with
  | nil => rfl
  | cons e t ih =>
    obtain ⟨he, ht⟩ := List.forall_mem_cons.1 ht
    exact (releasedIn_cons_iff he).trans (ih ht)

/-- Released, and not touched in what follows. -/
theorem ReleasedIn.append (ht : L.ReleasedIn b t) (hu : ∀ f ∈ u, ¬ L.Touches b f) :
    L.ReleasedIn b (t ++ u) := by
  obtain ⟨v, e, w, rfl, hv, he, hw⟩ := ht
  refine ⟨v, e, w ++ u, List.append_assoc v (e :: w) u, hv, he, ?_⟩
  intro f hf
  rcases List.mem_append.1 hf with hf | hf
  · exact hw f hf
  · exact hu f hf

/-! ## Settled traces -/

theorem settled_nil : L.Settled [] := by
  intro t₁ e t₂ h
  simp at h

/-- A trace is settled when what its first event acquires is released in the rest, and the rest is
settled. -/
theorem settled_cons :
    L.Settled (e :: t) ↔ (∀ b, L.acquires e = some b → L.ReleasedIn b t) ∧ L.Settled t := by
  refine ⟨fun h => ⟨h [] e t rfl, ?_⟩, ?_⟩
  · rintro t₁ f t₂ rfl
    exact h (e :: t₁) f t₂ rfl
  · rintro ⟨he, ht⟩ t₁ f t₂ h
    cases t₁ with
    | nil =>
      obtain ⟨rfl, rfl⟩ := List.cons.inj h
      exact he
    | cons g t₁ =>
      obtain ⟨rfl, rfl⟩ := List.cons.inj h
      exact ht t₁ f t₂ rfl

/-- Events that acquire nothing owe nothing. -/
theorem settled_of_acquires (h : ∀ e ∈ t, L.acquires e = none) : L.Settled t := by
  rintro t₁ e t₂ rfl b he
  rw [h e (List.mem_append_right t₁ (.head t₂))] at he
  cases he

/-- Two settled traces are settled one after the other, if the second touches nothing of the
first. -/
theorem Settled.append (ht : L.Settled t) (hu : L.Settled u)
    (h : ∀ e ∈ t, ∀ b, L.acquires e = some b → ∀ f ∈ u, ¬ L.Touches b f) :
    L.Settled (t ++ u) := by
  induction t with
  | nil => exact hu
  | cons e t ih =>
    obtain ⟨he, ht⟩ := settled_cons.1 ht
    obtain ⟨h₀, h⟩ := List.forall_mem_cons.1 h
    exact settled_cons.2 ⟨fun b hb => (he b hb).append (h₀ b hb), ih ht h⟩

end Ledger

end Resources
