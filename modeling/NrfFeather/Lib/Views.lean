import Mathlib.Logic.Equiv.Defs
import NrfFeather.Lib.Prog

/-!
# Programs that see a part of the world

A function that is verified against its own small environment is called by a larger program, whose
environment answers more kinds of calls. `Embedding` places the calls of the small environment
among those of the large one, `Prog.embed` carries a program over, and `View` says when the large
environment treats the embedded calls as the small one does, on the part of its world that a
projection shows. `View.exec` then reads a run in the large world as a run in the small one,
`View.wp` carries a weakest precondition over, and `Exec.embed_frame` is the frame rule for the
rest of the world.

Where the embedded calls are exactly those of the small environment, and touch nothing else, the
part of the world is a `Part`: `Part.exec_iff` reads the runs both ways, so that a sequence of
programs over different parts has exactly the runs that its programs have by themselves.
-/

namespace Effects

/-- The calls `C` placed among the calls `D`, with the same answers. -/
structure Embedding {C D : Type} (A : C → Type) (B : D → Type) where
  call : C → D
  ans : ∀ c, B (call c) ≃ A c

variable {C D : Type} {A : C → Type} {B : D → Type} {σ τ ρ α β : Type}

/-- A program whose calls are placed among others. -/
def Prog.embed (i : Embedding A B) : Prog A α → Prog B α
  | .ret a => .ret a
  | .call c k => .call (i.call c) fun r => (k (i.ans c r)).embed i

/-- A call with its answer, placed among others. -/
def Embedding.event (i : Embedding A B) (e : Event A) : Event B :=
  ⟨i.call e.1, (i.ans e.1).symm e.2⟩

variable {i : Embedding A B}

@[simp] theorem Prog.embed_ret (a : α) : (Prog.ret a : Prog A α).embed i = .ret a := rfl

@[simp] theorem Prog.embed_call (c : C) (k : A c → Prog A α) :
    (Prog.call c k).embed i = .call (i.call c) fun r => (k (i.ans c r)).embed i := rfl

@[simp] theorem Embedding.event_mk (c : C) (r : B (i.call c)) :
    i.event ⟨c, i.ans c r⟩ = ⟨i.call c, r⟩ := by
  simp [Embedding.event]

/-- The embedded calls are answered, and change the part of the world that `proj` shows, as in the
small environment. -/
structure View (E : Env B τ) (E₁ : Env A σ) (i : Embedding A B) (proj : τ → σ) : Prop where
  allows : ∀ s c r, E.allows s (i.call c) r → E₁.allows (proj s) c (i.ans c r)
  next : ∀ s c r, proj (E.next s (i.call c) r) = E₁.next (proj s) c (i.ans c r)

variable {E : Env B τ} {E₁ : Env A σ} {proj : τ → σ} {p : Prog A α} {s s' : τ}
  {t : List (Event B)} {a : α}

/-- A run in the large world shows as a run in the small one. -/
theorem View.exec (v : View E E₁ i proj) (h : Exec E s (p.embed i) t a s') :
    ∃ u, t = u.map i.event ∧ Exec E₁ (proj s) p u a (proj s') := by
  induction p generalizing s t with
  | ret b =>
    cases h
    exact ⟨[], rfl, .ret⟩
  | call c k ih =>
    rw [Prog.embed_call] at h
    cases h with
    | @call _ _ _ _ r _ _ hr h =>
      obtain ⟨u, rfl, hu⟩ := ih _ h
      refine ⟨⟨c, i.ans c r⟩ :: u, ?_, .call (v.allows s c r hr) ?_⟩
      · rw [List.map_cons, Embedding.event_mk]
      · rw [← v.next]
        exact hu

/-- A run in the small world is one in the large world, if this allows the answers too. -/
theorem View.exec_embed (v : View E E₁ i proj)
    (hr : ∀ s c r, E₁.allows (proj s) c (i.ans c r) → E.allows s (i.call c) r)
    {u : List (Event A)} {s₁ : σ} (h : Exec E₁ (proj s) p u a s₁) :
    ∃ s', Exec E s (p.embed i) (u.map i.event) a s' ∧ proj s' = s₁ := by
  induction p generalizing s u with
  | ret b =>
    cases h
    exact ⟨s, .ret, rfl⟩
  | call c k ih =>
    cases h with
    | @call _ _ _ _ r _ _ hc h =>
      have hnext : proj (E.next s (i.call c) ((i.ans c).symm r)) = E₁.next (proj s) c r := by
        rw [v.next, Equiv.apply_symm_apply]
      rw [← hnext] at h
      obtain ⟨s', hs', hproj⟩ := ih r h
      refine ⟨s', .call (hr s c _ ?_) ?_, hproj⟩
      · rw [Equiv.apply_symm_apply]
        exact hc
      · rw [Equiv.apply_symm_apply]
        exact hs'

/-- What is established in the small world holds of the part that is seen. -/
theorem View.wp (v : View E E₁ i proj) {Q₁ : List (Event A) → α → σ → Prop}
    {Q : List (Event B) → α → τ → Prop} (h : wp E₁ p Q₁ (proj s))
    (hQ : ∀ u a s', Exec E s (p.embed i) (u.map i.event) a s' → Q₁ u a (proj s') →
      Q (u.map i.event) a s') : Effects.wp E (p.embed i) Q s := by
  refine wp_iff_exec.2 fun t a s' hx => ?_
  obtain ⟨u, rfl, hu⟩ := v.exec hx
  exact hQ u a s' hx (hu.of_wp h)

/-- A condition on the calls in the small world holds in the large one, where it may also use what
the embedded calls keep. -/
theorem View.allCalls (v : View E E₁ i proj) {P₁ : σ → Event A → Prop} {P : τ → Event B → Prop}
    {F : τ → Prop} (hF : ∀ s c r, F s → F (E.next s (i.call c) r))
    (hP : ∀ s e, F s → P₁ (proj s) e → P s (i.event e)) (hs : F s) {u : List (Event A)}
    (h : E₁.AllCalls P₁ (proj s) u) : E.AllCalls P s (u.map i.event) := by
  induction u generalizing s with
  | nil => trivial
  | cons e u ih =>
    obtain ⟨c, r⟩ := e
    refine ⟨hP s _ hs h.1, ih (hF s c _ hs) ?_⟩
    rw [v.next, Equiv.apply_symm_apply]
    exact h.2

/-- What every embedded call keeps still holds after an embedded program. -/
theorem Exec.embed_keeps (h : Exec E s (p.embed i) t a s') {F : τ → Prop}
    (hF : ∀ s c r, F s → F (E.next s (i.call c) r)) (hs : F s) : F s' := by
  induction p generalizing s t with
  | ret b =>
    cases h
    exact hs
  | call c k ih =>
    rw [Prog.embed_call] at h
    cases h with
    | call _ h => exact ih _ h (hF _ _ _ hs)

/-- What no embedded call changes is as it was after an embedded program. -/
theorem Exec.embed_frame (h : Exec E s (p.embed i) t a s') (frame : τ → ρ)
    (hf : ∀ s c r, frame (E.next s (i.call c) r) = frame s) : frame s' = frame s := by
  induction p generalizing s t with
  | ret b =>
    cases h
    rfl
  | call c k ih =>
    rw [Prog.embed_call] at h
    cases h with
    | call _ h => rw [ih _ h, hf]

/-! ## Parts -/

/-- A part of the world that can be read and put back, and that alone the embedded calls change,
with the answers that the small environment allows. -/
structure Part (E : Env B τ) (E₁ : Env A σ) (i : Embedding A B) (get : τ → σ) (put : σ → τ → τ) :
    Prop where
  allows_iff : ∀ s c r, E.allows s (i.call c) r ↔ E₁.allows (get s) c (i.ans c r)
  next_eq : ∀ s c r, E.next s (i.call c) r = put (E₁.next (get s) c (i.ans c r)) s
  get_put : ∀ x s, get (put x s) = x
  put_put : ∀ x y s, put x (put y s) = put x s
  put_get : ∀ s, put (get s) s = s

variable {get : τ → σ} {put : σ → τ → τ}

/-- A part that the calls of the small world act on, and nothing else, is a view of it. -/
theorem Part.view (h : Part E E₁ i get put) : View E E₁ i get := by
  refine ⟨fun s c r => (h.allows_iff s c r).1, fun s c r => ?_⟩
  rw [h.next_eq, h.get_put]

/-- An embedded program changes only its part of the world. -/
theorem Part.exec_eq (h : Part E E₁ i get put) (hx : Exec E s (p.embed i) t a s') :
    s' = put (get s') s := by
  refine hx.embed_keeps (F := fun s' => s' = put (get s') s) ?_ (h.put_get s).symm
  intro s' c r hs'
  rw [h.next_eq, h.get_put]
  exact (congrArg (put _) hs').trans (h.put_put _ _ _)

/-- The runs of an embedded program are those of the program on its part of the world. -/
theorem Part.exec_iff (h : Part E E₁ i get put) :
    Exec E s (p.embed i) t a s' ↔
      ∃ u x, t = u.map i.event ∧ Exec E₁ (get s) p u a x ∧ s' = put x s := by
  constructor
  · intro hx
    obtain ⟨u, rfl, hu⟩ := h.view.exec hx
    exact ⟨u, get s', rfl, hu, h.exec_eq hx⟩
  · rintro ⟨u, x, rfl, hu, rfl⟩
    obtain ⟨s', hx, rfl⟩ := h.view.exec_embed (fun s c r => (h.allows_iff s c r).2) hu
    rw [← h.exec_eq hx]
    exact hx

end Effects
