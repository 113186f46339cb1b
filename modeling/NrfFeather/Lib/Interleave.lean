import NrfFeather.Lib.Prog
import NrfFeather.Lib.Transition

/-!
# A program in a world that moves by itself

While a work item runs, interrupts and callbacks change the world between any two of its calls.
`Interleaved` is the system of a program and such a world: a step is the next call of the program,
labelled with the event, or a move `tick` of the world, labelled `none`. `Interleaved.run_inv` says
how a run can begin, and `Interleaved.of_exec` that a run of the program alone is one in which the
world does not move.
-/

namespace Effects

open Transition

variable {C : Type} {A : C → Type} {σ α : Type}

/-- A step of a program, or of the world around it. -/
inductive Interleaved (E : Env A σ) (tick : σ → σ → Prop) :
    Prog A α × σ → Option (Event A) → Prog A α × σ → Prop where
  | call {s : σ} {c : C} {k : A c → Prog A α} {r : A c} :
      E.allows s c r → Interleaved E tick (.call c k, s) (some ⟨c, r⟩) (k r, E.next s c r)
  | tick {p : Prog A α} {s s' : σ} : tick s s' → Interleaved E tick (p, s) none (p, s')

variable {E : Env A σ} {tick : σ → σ → Prop} {p q : Prog A α} {s s' : σ}

/-- A run is empty, or it begins with a move of the world or with the next call. -/
theorem Interleaved.run_inv {ls : List (Option (Event A))}
    (h : Run (Interleaved E tick) (p, s) ls (q, s')) :
    (ls = [] ∧ p = q ∧ s = s') ∨
      (∃ u ls', ls = none :: ls' ∧ tick s u ∧ Run (Interleaved E tick) (p, u) ls' (q, s')) ∨
      ∃ c k r ls', p = .call c k ∧ ls = some ⟨c, r⟩ :: ls' ∧ E.allows s c r ∧
        Run (Interleaved E tick) (k r, E.next s c r) ls' (q, s') := by
  cases h with
  | nil => exact .inl ⟨rfl, rfl, rfl⟩
  | cons hl h =>
    cases hl with
    | call hr => exact .inr (.inr ⟨_, _, _, _, rfl, rfl, hr, h⟩)
    | tick ht => exact .inr (.inl ⟨_, _, rfl, ht, h⟩)

/-- A run of the program alone. -/
theorem Interleaved.of_exec {t : List (Event A)} {a : α} (h : Exec E s p t a s') :
    Run (Interleaved E tick) (p, s) (t.map some) (.ret a, s') := by
  induction h with
  | ret => exact .nil _
  | call hr _ ih => exact .cons (.call hr) ih

end Effects
