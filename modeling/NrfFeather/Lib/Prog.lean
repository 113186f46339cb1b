/-!
# Programs that call an environment

A C function of a driver is a short program whose only interesting steps are calls into code that
is not its own: a device driver, a socket layer, an allocator. `Prog` is such a program with the
calls left open: it either returns a value or makes a call and goes on with the answer. An
environment `Env` says which answers a call may get in a state of the outside world and how the
world changes with the answer; `Exec` is the runs of a program in an environment, with the trace
of the calls they made, and `wp` the weakest precondition over all of them, answer by answer.

The rules are `wp_ret`, `wp_call`, `wp_perform` and `wp_bind`, which take a program apart,
`wp_mono`, which uses a lemma about a part, and `wp_iff_exec`, which reads a `wp` back as a
statement about every run. A condition on all calls of a run is established call by call
(`wp_call_ensuring`, `wp_bind_ensuring`) and may be assumed so (`wp_call_assuming`). `runWith` runs
a program against an oracle, for concrete inputs.
-/

namespace Effects

/-- A program over the calls `C`, whose call `c` is answered by a value of `A c`. -/
inductive Prog {C : Type} (A : C → Type) (α : Type) : Type where
  | ret : α → Prog A α
  | call : (c : C) → (A c → Prog A α) → Prog A α

variable {C : Type} {A : C → Type} {σ α β : Type}

namespace Prog

/-- Run `p`, then `f` on its result. -/
def bind : Prog A α → (α → Prog A β) → Prog A β
  | .ret a, f => f a
  | .call c k, f => .call c fun r => (k r).bind f

instance : Monad (Prog A) where
  pure := .ret
  bind := Prog.bind

/-- The program that makes one call and returns its answer. -/
def perform (c : C) : Prog A (A c) := .call c .ret

@[simp] theorem pure_eq (a : α) : (pure a : Prog A α) = .ret a := rfl

@[simp] theorem ret_bind (a : α) (f : α → Prog A β) : (Prog.ret a : Prog A α) >>= f = f a := rfl

@[simp] theorem call_bind (c : C) (k : A c → Prog A α) (f : α → Prog A β) :
    (Prog.call c k : Prog A α) >>= f = .call c fun r => k r >>= f := rfl

/-- Nothing is done after the last result. -/
theorem bind_ret (p : Prog A α) : p >>= (fun a => .ret a) = p := by
  induction p with
  | ret a => rfl
  | call c k ih => rw [call_bind]; congr 1; funext r; exact ih r

/-- It does not matter how three programs in a row are bracketed. -/
theorem bind_assoc {γ : Type} (p : Prog A α) (f : α → Prog A β) (g : β → Prog A γ) :
    p >>= f >>= g = p >>= fun a => f a >>= g := by
  induction p with
  | ret a => rfl
  | call c k ih => simp only [call_bind]; congr 1; funext r; exact ih r

instance : LawfulMonad (Prog A) :=
  LawfulMonad.mk' (Prog A) bind_ret (fun _ _ => rfl) bind_assoc

@[simp] theorem perform_bind (c : C) (f : A c → Prog A β) : perform c >>= f = .call c f := rfl

@[simp] theorem map_ret (f : α → β) (a : α) : f <$> (.ret a : Prog A α) = .ret (f a) := rfl

/-- A call made by a function that passes a state along leaves the state alone. -/
@[simp] theorem run_liftM {τ : Type} (p : Prog A α) (s : τ) :
    (liftM p : StateT τ (Prog A) α).run s = p >>= fun a => .ret (a, s) := rfl

end Prog

/-- A call together with the answer it got. -/
abbrev Event (A : C → Type) : Type := (c : C) × A c

/-- What lies outside a program: the answers a call may get in a state of the world, and the state
of the world after the call was so answered. -/
structure Env (A : C → Type) (σ : Type) where
  allows : σ → (c : C) → A c → Prop
  next : σ → (c : C) → A c → σ

/-- The world after the calls of a trace. -/
def Env.after (E : Env A σ) : σ → List (Event A) → σ
  | s, [] => s
  | s, ⟨c, r⟩ :: t => E.after (E.next s c r) t

/-- Every call of the trace was made in a state of the world in which `P` holds of it. -/
def Env.AllCalls (E : Env A σ) (P : σ → Event A → Prop) : σ → List (Event A) → Prop
  | _, [] => True
  | s, ⟨c, r⟩ :: t => P s ⟨c, r⟩ ∧ E.AllCalls P (E.next s c r) t

variable {E : Env A σ}

@[simp] theorem Env.after_nil (s : σ) : E.after s [] = s := rfl

@[simp] theorem Env.after_cons (s : σ) (c : C) (r : A c) (t : List (Event A)) :
    E.after s (⟨c, r⟩ :: t) = E.after (E.next s c r) t := rfl

/-- The calls of two traces are made one after the other. -/
theorem Env.after_append (s : σ) (t u : List (Event A)) :
    E.after s (t ++ u) = E.after (E.after s t) u := by
  induction t generalizing s with
  | nil => rfl
  | cons e t ih => exact ih _

@[simp] theorem Env.allCalls_nil (P : σ → Event A → Prop) (s : σ) : E.AllCalls P s [] := trivial

@[simp] theorem Env.allCalls_cons (P : σ → Event A → Prop) (s : σ) (c : C) (r : A c)
    (t : List (Event A)) :
    E.AllCalls P s (⟨c, r⟩ :: t) ↔ P s ⟨c, r⟩ ∧ E.AllCalls P (E.next s c r) t := Iff.rfl

/-- All calls of two traces in a row satisfy what those of the first do, and those of the second in
the state the first has led to. -/
theorem Env.allCalls_append (P : σ → Event A → Prop) (s : σ) (t u : List (Event A)) :
    E.AllCalls P s (t ++ u) ↔ E.AllCalls P s t ∧ E.AllCalls P (E.after s t) u := by
  induction t generalizing s with
  | nil => simp
  | cons e t ih =>
    obtain ⟨c, r⟩ := e
    simp only [List.cons_append, allCalls_cons, after_cons, ih, and_assoc]

/-- A condition on the calls alone holds in any world. -/
theorem Env.allCalls_of_forall {P : Event A → Prop} {s : σ} {t : List (Event A)}
    (h : ∀ e ∈ t, P e) : E.AllCalls (fun _ => P) s t := by
  induction t generalizing s with
  | nil => trivial
  | cons e t ih =>
    obtain ⟨c, r⟩ := e
    rw [List.forall_mem_cons] at h
    exact ⟨h.1, ih h.2⟩

/-- All calls of a trace meet a condition when each does in the world that the calls before it lead
to. -/
theorem Env.allCalls_iff (P : σ → Event A → Prop) (s : σ) (t : List (Event A)) :
    E.AllCalls P s t ↔ ∀ t₁ e t₂, t = t₁ ++ e :: t₂ → P (E.after s t₁) e := by
  constructor
  · rintro h t₁ ⟨c, r⟩ t₂ rfl
    exact ((E.allCalls_append P s t₁ _).1 h).2.1
  · intro h
    induction t generalizing s with
    | nil => trivial
    | cons e t ih =>
      obtain ⟨c, r⟩ := e
      refine ⟨h [] ⟨c, r⟩ t rfl, ih _ ?_⟩
      intro t₁ e t₂ ht
      exact h (⟨c, r⟩ :: t₁) e t₂ (by rw [ht]; rfl)

/-- The runs of a program from a state of the world: their trace, result and final world. -/
inductive Exec (E : Env A σ) : σ → Prog A α → List (Event A) → α → σ → Prop where
  | ret {s : σ} {a : α} : Exec E s (.ret a) [] a s
  | call {s s' : σ} {c : C} {k : A c → Prog A α} {r : A c} {t : List (Event A)} {a : α} :
      E.allows s c r → Exec E (E.next s c r) (k r) t a s' →
      Exec E s (.call c k) (⟨c, r⟩ :: t) a s'

/-- A run's final world is the one its trace leads to. -/
theorem Exec.after_eq {p : Prog A α} {s s' : σ} {t : List (Event A)} {a : α}
    (h : Exec E s p t a s') : E.after s t = s' := by
  induction h with
  | ret => rfl
  | call _ _ ih => exact ih

/-- An execution of a program is continued by one of what follows. -/
theorem Exec.bind {p : Prog A α} {f : α → Prog A β} {s s₁ s' : σ} {t u : List (Event A)} {a : α}
    {b : β} (h : Exec E s p t a s₁) (hf : Exec E s₁ (f a) u b s') :
    Exec E s (p >>= f) (t ++ u) b s' := by
  induction h with
  | ret => exact hf
  | call hr _ ih => exact .call hr (ih hf)

/-- A run of a sequence is a run of its first part and a run of the rest. -/
theorem Exec.bind_inv {p : Prog A α} {f : α → Prog A β} {s s' : σ} {t : List (Event A)} {b : β}
    (h : Exec E s (p >>= f) t b s') :
    ∃ t₁ a s₁ t₂, Exec E s p t₁ a s₁ ∧ Exec E s₁ (f a) t₂ b s' ∧ t = t₁ ++ t₂ := by
  induction p generalizing s t with
  | ret a => exact ⟨[], a, s, t, .ret, h, rfl⟩
  | call c k ih =>
    rw [Prog.call_bind] at h
    cases h with
    | call hr h =>
      obtain ⟨t₁, a, s₁, t₂, h₁, h₂, rfl⟩ := ih _ h
      exact ⟨_, a, s₁, t₂, .call hr h₁, h₂, rfl⟩

/-- The weakest precondition of `p` for a postcondition on trace, result and final world: every
answer the environment may give leads to it. -/
def wp (E : Env A σ) : Prog A α → (List (Event A) → α → σ → Prop) → σ → Prop
  | .ret a, Q, s => Q [] a s
  | .call c k, Q, s =>
    ∀ r, E.allows s c r → wp E (k r) (fun t => Q (⟨c, r⟩ :: t)) (E.next s c r)

/-- A program that is done has made no call. -/
@[simp] theorem wp_ret (a : α) (Q : List (Event A) → α → σ → Prop) (s : σ) :
    wp E (.ret a) Q s ↔ Q [] a s := Iff.rfl

/-- A call is answered by whatever the environment allows. -/
@[simp] theorem wp_call (c : C) (k : A c → Prog A α) (Q : List (Event A) → α → σ → Prop) (s : σ) :
    wp E (.call c k) Q s ↔
      ∀ r, E.allows s c r → wp E (k r) (fun t => Q (⟨c, r⟩ :: t)) (E.next s c r) := Iff.rfl

/-- A single call returns its answer. -/
@[simp] theorem wp_perform (c : C) (Q : List (Event A) → A c → σ → Prop) (s : σ) :
    wp E (Prog.perform c) Q s ↔ ∀ r, E.allows s c r → Q [⟨c, r⟩] r (E.next s c r) := Iff.rfl

/-- A sequence is taken apart at its first part, whose trace comes first. -/
theorem wp_bind (p : Prog A α) (f : α → Prog A β) (Q : List (Event A) → β → σ → Prop) (s : σ) :
    wp E (p >>= f) Q s ↔ wp E p (fun t a => wp E (f a) (fun u => Q (t ++ u))) s := by
  induction p generalizing Q s with
  | ret a => rfl
  | call c k ih =>
    rw [Prog.call_bind]
    simp only [wp_call, ih, List.cons_append]

/-- A postcondition may be weakened. -/
theorem wp_mono {p : Prog A α} {Q R : List (Event A) → α → σ → Prop} {s : σ}
    (h : ∀ t a s', Q t a s' → R t a s') (hp : wp E p Q s) : wp E p R s := by
  induction p generalizing Q R s with
  | ret a => exact h _ _ _ hp
  | call c k ih => exact fun r hr => ih r (fun t => h _) (hp r hr)

/-- A precondition speaks about exactly the runs of the program. -/
theorem wp_iff_exec {p : Prog A α} {Q : List (Event A) → α → σ → Prop} {s : σ} :
    wp E p Q s ↔ ∀ t a s', Exec E s p t a s' → Q t a s' := by
  induction p generalizing Q s with
  | ret a =>
    refine ⟨?_, fun h => h _ _ _ .ret⟩
    intro hq t b s' h
    cases h
    exact hq
  | call c k ih =>
    refine ⟨?_, ?_⟩
    · intro hq t b s' h
      cases h with
      | call hr h => exact (ih _).1 (hq _ hr) _ _ _ h
    · intro h r hr
      exact (ih r).2 fun t a s' hx => h _ _ _ (.call hr hx)

/-- Where every call may be answered so that a condition holds, every program has a run whose
calls meet it. -/
theorem exists_exec_forall {P : Event A → Prop} (h : ∀ s c, ∃ r, E.allows s c r ∧ P ⟨c, r⟩)
    (p : Prog A α) (s : σ) : ∃ t a s', Exec E s p t a s' ∧ ∀ e ∈ t, P e := by
  induction p generalizing s with
  | ret a => exact ⟨[], a, s, .ret, nofun⟩
  | call c k ih =>
    obtain ⟨r, hr, hP⟩ := h s c
    obtain ⟨t, a, s', ht, hall⟩ := ih r (E.next s c r)
    exact ⟨_, a, s', .call hr ht, List.forall_mem_cons.2 ⟨hP, hall⟩⟩

/-- Where every call is answered by something, every program can be executed to its end. -/
theorem exists_exec (h : ∀ s c, ∃ r, E.allows s c r) (p : Prog A α) (s : σ) :
    ∃ t a s', Exec E s p t a s' := by
  obtain ⟨t, a, s', ht, -⟩ := exists_exec_forall (P := fun _ => True)
    (fun s c => (h s c).imp fun _ hr => ⟨hr, trivial⟩) p s
  exact ⟨t, a, s', ht⟩

/-- What holds after every run may be used of a given one. -/
theorem Exec.of_wp {p : Prog A α} {Q : List (Event A) → α → σ → Prop} {s s' : σ}
    {t : List (Event A)} {a : α} (h : Exec E s p t a s') (hp : wp E p Q s) : Q t a s' :=
  wp_iff_exec.1 hp _ _ _ h

/-- Two postconditions may be established apart. -/
theorem wp_and {p : Prog A α} {Q R : List (Event A) → α → σ → Prop} {s : σ} (hq : wp E p Q s)
    (hr : wp E p R s) : wp E p (fun t a s' => Q t a s' ∧ R t a s') s :=
  wp_iff_exec.2 fun _ _ _ h => ⟨h.of_wp hq, h.of_wp hr⟩

section
variable {P : Event A → Prop} {R : β → σ → Prop} {s : σ}

/-- That all calls of a run meet a condition is established at each call. -/
theorem wp_call_ensuring {c : C} {k : A c → Prog A β}
    (h : ∀ r, E.allows s c r → P ⟨c, r⟩ ∧
      wp E (k r) (fun t b s' => (∀ e ∈ t, P e) ∧ R b s') (E.next s c r)) :
    wp E (.call c k) (fun t b s' => (∀ e ∈ t, P e) ∧ R b s') s := by
  intro r hr
  obtain ⟨hP, h⟩ := h r hr
  refine wp_mono ?_ h
  rintro t b s' ⟨ht, hR⟩
  exact ⟨List.forall_mem_cons.2 ⟨hP, ht⟩, hR⟩

/-- A condition on all calls of two programs in a row, shown for one at a time. -/
theorem wp_bind_ensuring {Q : α → σ → Prop} {p : Prog A α} {f : α → Prog A β}
    (hp : wp E p (fun t a s' => (∀ e ∈ t, P e) ∧ Q a s') s)
    (hf : ∀ a s', Q a s' → wp E (f a) (fun t b s'' => (∀ e ∈ t, P e) ∧ R b s'') s') :
    wp E (p >>= f) (fun t b s' => (∀ e ∈ t, P e) ∧ R b s') s := by
  rw [wp_bind]
  refine wp_mono ?_ hp
  rintro t a s' ⟨ht, hQ⟩
  refine wp_mono ?_ (hf a s' hQ)
  rintro u b s'' ⟨hu, hR⟩
  exact ⟨List.forall_mem_append.2 ⟨ht, hu⟩, hR⟩

/-- What is only claimed of runs whose calls meet a condition may assume it at each call. -/
theorem wp_call_assuming {c : C} {k : A c → Prog A β}
    (h : ∀ r, E.allows s c r → P ⟨c, r⟩ →
      wp E (k r) (fun t b s' => (∀ e ∈ t, P e) → R b s') (E.next s c r)) :
    wp E (.call c k) (fun t b s' => (∀ e ∈ t, P e) → R b s') s := by
  intro r hr
  refine wp_iff_exec.2 fun t b s' hx ht => ?_
  obtain ⟨hP, ht⟩ := List.forall_mem_cons.1 ht
  exact hx.of_wp (h r hr hP) ht

end

/-- Of the final world it is always known that the trace leads to it. -/
theorem wp_after {p : Prog A α} {Q : List (Event A) → α → σ → Prop} {s : σ} (hq : wp E p Q s) :
    wp E p (fun t a s' => E.after s t = s' ∧ Q t a s') s :=
  wp_and (wp_iff_exec.2 fun _ _ _ h => h.after_eq) hq

/-- The run of a program whose calls are answered by an oracle. -/
def runWith (E : Env A σ) (o : (c : C) → A c) : σ → Prog A α → List (Event A) × α × σ
  | s, .ret a => ([], a, s)
  | s, .call c k =>
    let (t, a, s') := runWith E o (E.next s c (o c)) (k (o c))
    (⟨c, o c⟩ :: t, a, s')

@[simp] theorem runWith_ret (o : (c : C) → A c) (s : σ) (a : α) :
    runWith E o s (.ret a) = ([], a, s) := rfl

@[simp] theorem runWith_call (o : (c : C) → A c) (s : σ) (c : C) (k : A c → Prog A α) :
    runWith E o s (.call c k) =
      (⟨c, o c⟩ :: (runWith E o (E.next s c (o c)) (k (o c))).1,
        (runWith E o (E.next s c (o c)) (k (o c))).2) := rfl

/-- A run against an oracle is a run when the environment allows each answer where it is given. -/
theorem runWith_exec_of {o : (c : C) → A c} (p : Prog A α) (s : σ)
    (h : E.AllCalls (fun s e => E.allows s e.1 e.2) s (runWith E o s p).1) :
    Exec E s p (runWith E o s p).1 (runWith E o s p).2.1 (runWith E o s p).2.2 := by
  induction p generalizing s with
  | ret a => exact .ret
  | call c k ih =>
    rw [runWith_call, Env.allCalls_cons] at h
    exact .call h.1 (ih _ _ h.2)

/-- What holds of the oracle's answers in every world holds of the calls of its runs. -/
theorem runWith_allCalls {P : σ → Event A → Prop} {o : (c : C) → A c}
    (ho : ∀ s c, P s ⟨c, o c⟩) (p : Prog A α) (s : σ) : E.AllCalls P s (runWith E o s p).1 := by
  induction p generalizing s with
  | ret a => trivial
  | call c k ih => exact ⟨ho s c, ih _ _⟩

/-- A run against an oracle whose answers the environment always allows is a run. -/
theorem runWith_exec {o : (c : C) → A c} (ho : ∀ s c, E.allows s c (o c)) (p : Prog A α) (s : σ) :
    Exec E s p (runWith E o s p).1 (runWith E o s p).2.1 (runWith E o s p).2.2 :=
  runWith_exec_of p s (runWith_allCalls ho p s)

/-- What holds of all the oracle's answers holds all along its runs. -/
theorem runWith_forall {P : (c : C) → A c → Prop} {o : (c : C) → A c} (ho : ∀ c, P c (o c))
    (p : Prog A α) (s : σ) : ∀ e ∈ (runWith E o s p).1, P e.1 e.2 := by
  induction p generalizing s with
  | ret a => exact nofun
  | call c k ih =>
    rw [runWith_call]
    exact List.forall_mem_cons.2 ⟨ho c, ih _ _⟩

end Effects
