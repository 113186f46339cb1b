/-!
# Labelled transition systems

A system is a step relation `σ → Λ → σ → Prop`; `Run` is its finite runs with the list of their
labels. The rules are `Run.invariant`, the induction over a run, `Run.history`, its form for
properties of the labels passed so far, `Run.pairwise`, its form for what one label says of all
later ones, `Run.length_add_le`, which bounds a run by a rank, `Run.lastWrite_getD`, for what only
some labels write, `Run.simulate`, which carries runs over to a system that simulates it, and
`Guarded`, the system in which only those steps remain whose state and label meet a condition: a run
of it is a run all of whose steps do.
-/

namespace Transition

variable {σ Λ : Type}

/-- The finite runs of a step relation, with their labels in order. -/
inductive Run (step : σ → Λ → σ → Prop) : σ → List Λ → σ → Prop where
  | nil (s : σ) : Run step s [] s
  | cons {s t u : σ} {l : Λ} {ls : List Λ} :
      step s l t → Run step t ls u → Run step s (l :: ls) u

/-- The steps that start in a state, and carry a label, that meet the condition. -/
def Guarded (step : σ → Λ → σ → Prop) (cond : σ → Λ → Prop) : σ → Λ → σ → Prop :=
  fun s l t => cond s l ∧ step s l t

variable {step step' : σ → Λ → σ → Prop}

/-- Runs are put together where one ends and the other begins. -/
theorem Run.append {s t u : σ} {ls ms : List Λ} (h : Run step s ls t) (h' : Run step t ms u) :
    Run step s (ls ++ ms) u := by
  induction h with
  | nil => exact h'
  | cons hl _ ih => exact .cons hl (ih h')

/-- A run passes through a state between any two parts of its labels. -/
theorem Run.append_inv {s u : σ} {ls ms : List Λ} (h : Run step s (ls ++ ms) u) :
    ∃ t, Run step s ls t ∧ Run step t ms u := by
  induction ls generalizing s with
  | nil => exact ⟨s, .nil s, h⟩
  | cons l ls ih =>
    cases h with
    | cons hl h =>
      obtain ⟨t, h₁, h₂⟩ := ih h
      exact ⟨t, .cons hl h₁, h₂⟩

/-- A run of one system is a run of any that makes the same steps. -/
theorem Run.mono (hs : ∀ s l t, step s l t → step' s l t) {s t : σ} {ls : List Λ}
    (h : Run step s ls t) : Run step' s ls t := by
  induction h with
  | nil => exact .nil _
  | cons hl _ ih => exact .cons (hs _ _ _ hl) ih

/-- A run all of whose steps meet a condition is a run. -/
theorem Run.of_guarded {cond : σ → Λ → Prop} {s t : σ} {ls : List Λ}
    (h : Run (Guarded step cond) s ls t) : Run step s ls t :=
  h.mono fun _ _ _ hl => hl.2

/-- A run whose labels all meet a condition is a run all of whose steps do. -/
theorem Run.guard {P : Λ → Prop} {s t : σ} {ls : List Λ} (h : Run step s ls t)
    (hP : ∀ l ∈ ls, P l) : Run (Guarded step fun _ l => P l) s ls t := by
  induction h with
  | nil => exact .nil _
  | cons hl _ ih =>
    rw [List.forall_mem_cons] at hP
    exact .cons ⟨hP.1, hl⟩ (ih hP.2)

/-- What every step preserves holds at the end of a run that starts with it. -/
theorem Run.invariant {I : σ → Prop} (hI : ∀ s l t, I s → step s l t → I t) {s t : σ}
    {ls : List Λ} (h : Run step s ls t) (hs : I s) : I t := by
  induction h with
  | nil => exact hs
  | cons hl _ ih => exact ih (hI _ _ _ hs hl)

/-- The invariant rule for a property of the labels passed so far and the state reached. -/
theorem Run.history {I : List Λ → σ → Prop}
    (hI : ∀ ls s l t, I ls s → step s l t → I (ls ++ [l]) t) {s t : σ} {ls : List Λ}
    (h : Run step s ls t) (hs : I [] s) : I ls t := by
  have key : ∀ pre, I pre s → I (pre ++ ls) t := by
    clear hs
    induction h with
    | nil => intro pre hpre; simpa using hpre
    | cons hl _ ih => intro pre hpre; simpa using ih _ (hI _ _ _ _ hpre hl)
  exact key [] hs

/-- What every step says of its label holds of all labels of a run. -/
theorem Run.forall_mem {P : Λ → Prop} (hP : ∀ s l t, step s l t → P l) {s t : σ} {ls : List Λ}
    (h : Run step s ls t) : ∀ l ∈ ls, P l := by
  induction h with
  | nil => exact fun _ hl => absurd hl List.not_mem_nil
  | cons hl _ ih => exact List.forall_mem_cons.2 ⟨hP _ _ _ hl, ih⟩

/-- Once `I` holds it stays, and every step that starts with it has a label with `Q`. -/
theorem Run.forall_mem_of {I : σ → Prop} {Q : Λ → Prop}
    (hI : ∀ s l t, I s → step s l t → I t) (hQ : ∀ s l t, I s → step s l t → Q l) {s t : σ}
    {ls : List Λ} (h : Run step s ls t) (hs : I s) : ∀ l ∈ ls, Q l := by
  induction h with
  | nil => exact fun _ hl => absurd hl List.not_mem_nil
  | cons hl _ ih => exact List.forall_mem_cons.2 ⟨hQ _ _ _ hs hl, ih (hI _ _ _ hs hl)⟩

/-- A label with `P` leads to a state from which on every label has `Q`. -/
theorem Run.pairwise {I : σ → Prop} {P Q : Λ → Prop} (hP : ∀ s l t, step s l t → P l → I t)
    (hI : ∀ s l t, I s → step s l t → I t) (hQ : ∀ s l t, I s → step s l t → Q l) {s t : σ}
    {ls : List Λ} (h : Run step s ls t) : ls.Pairwise fun l l' => P l → Q l' := by
  induction h with
  | nil => exact .nil
  | cons hl hrest ih =>
    exact .cons (fun l' hl' hp => hrest.forall_mem_of hI hQ (hP _ _ _ hl hp) l' hl') ih

/-- Where every step lowers a rank, a run is no longer than the rank goes down. -/
theorem Run.length_add_le {rank : σ → Nat} (hrank : ∀ s l t, step s l t → rank t < rank s)
    {s t : σ} {ls : List Λ} (h : Run step s ls t) : ls.length + rank t ≤ rank s := by
  induction h with
  | nil s => exact Nat.le_of_eq (Nat.zero_add _)
  | cons hl _ ih =>
    have hlt := hrank _ _ _ hl
    rw [List.length_cons]
    omega

/-- What the last label that writes something writes. -/
def lastWrite {α : Type} (write : Λ → Option α) (ls : List Λ) : Option α :=
  (ls.filterMap write).getLast?

/-- The last label decides, if it writes. -/
theorem lastWrite_concat {α : Type} (write : Λ → Option α) (ls : List Λ) (l : Λ) :
    lastWrite write (ls ++ [l]) = (write l).or (lastWrite write ls) := by
  unfold lastWrite
  rw [List.filterMap_append]
  cases h : write l with
  | none => simp [h]
  | some a => simp [h]

/-- What only writes change is as the last write left it. -/
theorem Run.lastWrite_getD {α : Type} {I : σ → Prop} (cell : σ → α) {write : Λ → Option α}
    (hI : ∀ s l t, I s → step s l t → I t)
    (hw : ∀ s l t, I s → step s l t → cell t = (write l).getD (cell s)) {s t : σ} {ls : List Λ}
    (h : Run step s ls t) (hs : I s) : cell t = (lastWrite write ls).getD (cell s) := by
  have key : cell t = (lastWrite write ls).getD (cell s) ∧ I t := by
    refine h.history (I := fun ls t => cell t = (lastWrite write ls).getD (cell s) ∧ I t) ?_
      ⟨rfl, hs⟩
    rintro ls t l u ⟨hcell, ht⟩ hl
    refine ⟨?_, hI _ _ _ ht hl⟩
    rw [hw _ _ _ ht hl, hcell, lastWrite_concat]
    cases write l <;> rfl
  exact key.1

/-- Where each step of a system is a run of another one on the abstracted states, so is each run. -/
theorem Run.simulate {τ M : Type} {step₂ : τ → M → τ → Prop} {abs : σ → τ}
    (hs : ∀ s l t, step s l t → ∃ ms, Run step₂ (abs s) ms (abs t)) {s t : σ} {ls : List Λ}
    (h : Run step s ls t) : ∃ ms, Run step₂ (abs s) ms (abs t) := by
  induction h with
  | nil => exact ⟨[], .nil _⟩
  | cons hl _ ih =>
    obtain ⟨ms, hm⟩ := hs _ _ _ hl
    obtain ⟨ns, hn⟩ := ih
    exact ⟨ms ++ ns, hm.append hn⟩

/-- The step relation of an executable step function. -/
def Steps (f : σ → Λ → Option σ) : σ → Λ → σ → Prop := fun s l t => f s l = some t

/-- The state an executable step function leads to. -/
def exec (f : σ → Λ → Option σ) : σ → List Λ → Option σ
  | s, [] => some s
  | s, l :: ls => (f s l).bind fun t => exec f t ls

/-- Running the step function and having a run are the same. -/
theorem exec_eq_some {f : σ → Λ → Option σ} {s t : σ} {ls : List Λ} :
    exec f s ls = some t ↔ Run (Steps f) s ls t := by
  induction ls generalizing s with
  | nil =>
    refine ⟨?_, ?_⟩
    · intro h
      cases h
      exact .nil _
    · intro h
      cases h
      rfl
  | cons l ls ih =>
    simp only [exec, Option.bind_eq_some_iff, ih]
    refine ⟨fun ⟨u, hu, h⟩ => .cons hu h, ?_⟩
    intro h
    cases h with
    | cons hl h => exact ⟨_, hl, h⟩

end Transition
