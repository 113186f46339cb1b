import NrfFeather.Lib.Accounting
import NrfFeather.Lib.Prog
import NrfFeather.Lib.Signal

/-!
# A thread that is woken

The shape of an embedded `main`: a set-up that may give up, then a loop that waits for a semaphore
and makes a pass for each time it is taken. The semaphore is given once when the loop is entered,
and from then on by an interrupt, which may come between any two calls of the thread, also in the
middle of a pass; what is given while the semaphore is at its limit is dropped.

`Thread.Holds.run` is the rule for the calls: what the set-up establishes and every pass keeps
holds whenever the thread waits, and each call is made in a world in which it may be.
`Thread.midway_run` says of the calls a pass has made so far that they are the beginning of a run of
its body. A pass that begins with a call of its own is known by that call: `Thread.answered` says
that no wake-up is lost, and `Thread.begins_le` that none is counted twice.
-/

namespace Effects

open Transition Signal

variable {C : Type} {A : C → Type} {σ χ β μ : Type} {limit : Nat}

/-- Where a thread stands. -/
inductive ThreadPc (A : C → Type) (χ β : Type) where
  | setup (p : Prog A (Except β χ))
  /-- At the semaphore, with what the set-up left in memory. -/
  | wait (x : χ)
  | pass (x : χ) (p : Prog A Unit)
  /-- The set-up gave up. -/
  | returned (b : β)

/-- The thread, its semaphore and the world it makes its calls to. -/
structure ThreadState (A : C → Type) (σ χ β : Type) (limit : Nat) where
  pc : ThreadPc A χ β
  sem : Sem limit
  world : σ

inductive ThreadLabel (A : C → Type) (μ : Type) where
  /-- The interrupt gives the semaphore. -/
  | wake
  /-- The world moves by itself. -/
  | move (m : μ)
  | call (e : Event A)
  /-- The set-up is done: the semaphore is given, and the loop entered. -/
  | enter
  /-- The set-up has failed. -/
  | leave
  | take
  /-- A pass is done. -/
  | done

/-- The thread's loop, and what goes on around it. -/
structure Thread (A : C → Type) (σ χ β μ : Type) where
  env : Env A σ
  body : χ → Prog A Unit
  /-- The interrupt may come. -/
  armed : σ → Prop
  /-- What the world may do while the thread stands at a point. -/
  moves : ThreadPc A χ β → σ → μ → σ → Prop

inductive Thread.Step (T : Thread A σ χ β μ) (s : ThreadState A σ χ β limit) :
    ThreadLabel A μ → ThreadState A σ χ β limit → Prop where
  | wake (harmed : T.armed s.world) : T.Step s .wake { s with sem := s.sem.give }
  | move {m : μ} {w : σ} (hmove : T.moves s.pc s.world m w) :
      T.Step s (.move m) { s with world := w }
  | setupCall {c : C} {k : A c → Prog A (Except β χ)} {r : A c} (hpc : s.pc = .setup (.call c k))
      (hr : T.env.allows s.world c r) :
      T.Step s (.call ⟨c, r⟩) { s with pc := .setup (k r), world := T.env.next s.world c r }
  | enter {x : χ} (hpc : s.pc = .setup (.ret (.ok x))) :
      T.Step s .enter { s with pc := .wait x, sem := s.sem.give }
  | leave {b : β} (hpc : s.pc = .setup (.ret (.error b))) :
      T.Step s .leave { s with pc := .returned b }
  | take {x : χ} {sem : Sem limit} (hpc : s.pc = .wait x) (hsem : s.sem.take = some sem) :
      T.Step s .take { s with pc := .pass x (T.body x), sem := sem }
  | passCall {x : χ} {c : C} {k : A c → Prog A Unit} {r : A c} (hpc : s.pc = .pass x (.call c k))
      (hr : T.env.allows s.world c r) :
      T.Step s (.call ⟨c, r⟩) { s with pc := .pass x (k r), world := T.env.next s.world c r }
  | done {x : χ} (hpc : s.pc = .pass x (.ret ())) : T.Step s .done { s with pc := .wait x }

variable {T : Thread A σ χ β μ} {s t : ThreadState A σ χ β limit} {ls : List (ThreadLabel A μ)}

/-! ## Wake-ups -/

/-- The semaphore is given. -/
def ThreadLabel.gives : ThreadLabel A μ → Bool
  | .wake | .enter => true
  | _ => false

def ThreadLabel.takes : ThreadLabel A μ → Bool
  | .take => true
  | _ => false

def ThreadLabel.wakes : ThreadLabel A μ → Bool
  | .wake => true
  | _ => false

def ThreadLabel.enters : ThreadLabel A μ → Bool
  | .enter => true
  | _ => false

/-- The semaphore is given by the interrupt or on entry. -/
theorem countP_gives (ls : List (ThreadLabel A μ)) :
    ls.countP ThreadLabel.gives = ls.countP ThreadLabel.wakes + ls.countP ThreadLabel.enters := by
  induction ls with
  | nil => rfl
  | cons l ls ih =>
    simp only [List.countP_cons, ih]
    cases l <;> simp [ThreadLabel.gives, ThreadLabel.wakes, ThreadLabel.enters] <;> omega

/-- The semaphore is taken only as often as it was given. -/
theorem Thread.takes_le (h : Run T.Step s ls t) :
    t.sem.count + ls.countP ThreadLabel.takes ≤ s.sem.count + ls.countP ThreadLabel.gives := by
  have hstep : ∀ (s : ThreadState A σ χ β limit) (l : ThreadLabel A μ) t, T.Step s l t →
      t.sem.count + l.takes.toNat ≤ s.sem.count + l.gives.toNat := by
    intro s l t hl
    cases hl with
    | wake | enter =>
      simp only [Sem.give_count, ThreadLabel.takes, ThreadLabel.gives, Bool.toNat_false,
        Bool.toNat_true]
      omega
    | take hpc hsem =>
      have hcount := Sem.take_eq_some.1 hsem
      simp only [ThreadLabel.takes, ThreadLabel.gives, Bool.toNat_false, Bool.toNat_true]
      omega
    | _ => exact Nat.le_refl _
  exact h.count_le hstep

/-- The thread is in its set-up. -/
def ThreadPc.inSetup : ThreadPc A χ β → Bool
  | .setup _ => true
  | _ => false

/-- The loop is entered once at most. -/
theorem Thread.enters_le (h : Run T.Step s ls t) : ls.countP ThreadLabel.enters ≤ 1 := by
  have hstep : ∀ (s : ThreadState A σ χ β limit) (l : ThreadLabel A μ) t, T.Step s l t →
      t.pc.inSetup.toNat + l.enters.toNat ≤ s.pc.inSetup.toNat + false.toNat := by
    intro s l t hl
    cases hl with
    | setupCall hpc | enter hpc | leave hpc | passCall hpc | done hpc | take hpc =>
      simp [hpc, ThreadPc.inSetup, ThreadLabel.enters]
    | _ => exact Nat.le_refl _
  have hle : t.pc.inSetup.toNat + ls.countP ThreadLabel.enters ≤
      s.pc.inSetup.toNat + ls.countP fun _ => false := h.count_le hstep
  have hone := s.pc.inSetup.toNat_le
  simp only [List.countP_false, Function.const_apply] at hle
  omega

/-- There is at most one pass for each wake-up, and one more for the entry. -/
theorem Thread.passes_le (h : Run T.Step s ls t) :
    t.sem.count + ls.countP ThreadLabel.takes ≤
      s.sem.count + ls.countP ThreadLabel.wakes + 1 := by
  have htakes := Thread.takes_le h
  have henters := Thread.enters_le h
  rw [countP_gives] at htakes
  omega

/-! ## Calls -/

/-- What is known of the world where the thread stands: from here on every call meets `P`, the
set-up ends with `J` or with `I`, and a pass ends with `I`. -/
def Thread.Holds (T : Thread A σ χ β μ) (I : χ → σ → Prop) (J : β → σ → Prop)
    (P : σ → Event A → Prop) : ThreadPc A χ β → σ → Prop
  | .setup p, w =>
    wp T.env p (fun t r w' => T.env.AllCalls P w t ∧
      match r with
      | .ok x => I x w'
      | .error b => J b w') w
  | .wait x, w => I x w
  | .pass x p, w => wp T.env p (fun t _ w' => T.env.AllCalls P w t ∧ I x w') w
  | .returned b, w => J b w

variable {I : χ → σ → Prop} {J : β → σ → Prop} {P : σ → Event A → Prop}

/-- A call is made where it may be, and what is known of the rest is known of the world it leads
to. -/
theorem wp_allCalls_call {E : Env A σ} {α : Type} {Q : α → σ → Prop} {c : C}
    {k : A c → Prog A α} {r : A c} {w : σ} (he : ∃ t a w', Exec E (E.next w c r) (k r) t a w')
    (h : wp E (.call c k) (fun t a w' => E.AllCalls P w t ∧ Q a w') w) (hr : E.allows w c r) :
    P w ⟨c, r⟩ ∧ wp E (k r) (fun t a w' => E.AllCalls P (E.next w c r) t ∧ Q a w')
      (E.next w c r) := by
  have hk := h r hr
  refine ⟨?_, wp_mono (fun _ _ _ hq => ⟨hq.1.2, hq.2⟩) hk⟩
  obtain ⟨t, a, w', hx⟩ := he
  exact (hx.of_wp hk).1.1

/-- While a call of a pass is in progress it meets `P`, and what is left in memory is what the loop
keeps. -/
theorem Thread.Holds.pass_call (hanswers : ∀ w c, ∃ r, T.env.allows w c r) {x : χ} {c : C}
    {k : A c → Prog A Unit} {r : A c} {w : σ} (h : T.Holds I J P (.pass x (.call c k)) w)
    (hr : T.env.allows w c r) : P w ⟨c, r⟩ ∧ ∃ w', I x w' := by
  obtain ⟨t, a, w', hx⟩ := exists_exec (E := T.env) hanswers (k r) (T.env.next w c r)
  obtain ⟨hP, hk⟩ := wp_allCalls_call ⟨t, a, w', hx⟩ h hr
  exact ⟨hP, w', (hx.of_wp hk).2⟩

/-- What the passes keep, and the moves of the world do not disturb, is kept by every step; and each
call meets `P`. -/
theorem Thread.Holds.step (hanswers : ∀ w c, ∃ r, T.env.allows w c r)
    (hbody : ∀ x w, I x w → T.Holds I J P (.pass x (T.body x)) w)
    (hmoves : ∀ pc w m w', T.moves pc w m w' → T.Holds I J P pc w → T.Holds I J P pc w')
    (hs : T.Holds I J P s.pc s.world) {l : ThreadLabel A μ} (h : T.Step s l t) :
    T.Holds I J P t.pc t.world ∧ ∀ e, l = .call e → P s.world e := by
  cases h with
  | wake => exact ⟨hs, nofun⟩
  | move hmove => exact ⟨hmoves _ _ _ _ hmove hs, nofun⟩
  | setupCall hpc hr =>
    rw [hpc] at hs
    obtain ⟨hP, hk⟩ := wp_allCalls_call (exists_exec hanswers _ _) hs hr
    refine ⟨hk, ?_⟩
    rintro e ⟨⟩
    exact hP
  | enter hpc | leave hpc =>
    rw [hpc] at hs
    exact ⟨hs.2, nofun⟩
  | take hpc =>
    rw [hpc] at hs
    exact ⟨hbody _ _ hs, nofun⟩
  | passCall hpc hr =>
    rw [hpc] at hs
    obtain ⟨hP, hk⟩ := wp_allCalls_call (exists_exec hanswers _ _) hs hr
    refine ⟨hk, ?_⟩
    rintro e ⟨⟩
    exact hP
  | done hpc =>
    rw [hpc] at hs
    exact ⟨hs.2, nofun⟩

/-- The rule for whole runs. -/
theorem Thread.Holds.run (hanswers : ∀ w c, ∃ r, T.env.allows w c r)
    (hbody : ∀ x w, I x w → T.Holds I J P (.pass x (T.body x)) w)
    (hmoves : ∀ pc w m w', T.moves pc w m w' → T.Holds I J P pc w → T.Holds I J P pc w')
    (h : Run T.Step s ls t) (hs : T.Holds I J P s.pc s.world) : T.Holds I J P t.pc t.world :=
  h.invariant (I := fun s => T.Holds I J P s.pc s.world)
    (fun _ _ _ hs hl => (Thread.Holds.step hanswers hbody hmoves hs hl).1) hs

/-! ## Runs of the calls -/

/-- The calls made since the semaphore was taken last, or else since the beginning. -/
def recentCalls (ls : List (ThreadLabel A μ)) : List (Event A) :=
  ls.foldl (fun calls l =>
    match l with
    | .take => []
    | .call e => calls ++ [e]
    | _ => calls) []

/-- `calls` are the beginning of a run of what the thread is at: what is left of the set-up `p₀`
completes them to one of it from `w₀`, and what is left of a pass to one of the body. -/
def Thread.Midway (T : Thread A σ χ β μ) (p₀ : Prog A (Except β χ)) (w₀ : σ)
    (calls : List (Event A)) : ThreadPc A χ β → σ → Prop
  | .setup p, w => ∀ t r w', Exec T.env w p t r w' → Exec T.env w₀ p₀ (calls ++ t) r w'
  | .pass x p, w =>
    ∃ w₁, ∀ t a w', Exec T.env w p t a w' → Exec T.env w₁ (T.body x) (calls ++ t) a w'
  | _, _ => True

section
variable {p₀ : Prog A (Except β χ)} {w₀ : σ}

/-- A take begins a new list of calls, a call is added at its end, and any other label leaves it. -/
theorem recentCalls_concat (ls : List (ThreadLabel A μ)) (l : ThreadLabel A μ) :
    recentCalls (ls ++ [l]) =
      match l with
      | .take => []
      | .call e => recentCalls ls ++ [e]
      | _ => recentCalls ls := by
  unfold recentCalls
  rw [List.foldl_append]
  rfl

/-- Each step keeps to the run that the calls before it began. -/
theorem Thread.Midway.step (hmoves : ∀ pc w m w', T.moves pc w m w' → w' = w)
    (hs : T.Midway p₀ w₀ (recentCalls ls) s.pc s.world) {l : ThreadLabel A μ}
    (h : T.Step s l t) : T.Midway p₀ w₀ (recentCalls (ls ++ [l])) t.pc t.world := by
  rw [recentCalls_concat]
  cases h with
  | wake => exact hs
  | move hmove =>
    rw [hmoves _ _ _ _ hmove]
    exact hs
  | setupCall hpc hr =>
    rw [hpc] at hs
    intro t a w' hx
    rw [List.append_assoc]
    exact hs _ _ _ (.call hr hx)
  | enter | leave | done => trivial
  | take => exact ⟨s.world, fun t a w' hx => hx⟩
  | passCall hpc hr =>
    rw [hpc] at hs
    obtain ⟨w₁, hrest⟩ := hs
    refine ⟨w₁, fun t a w' hx => ?_⟩
    rw [List.append_assoc]
    exact hrest _ _ _ (.call hr hx)

/-- In every run from the entry of the thread, the calls since the last take are those of the body
so far, and what is left of the body is what the thread goes on with. -/
theorem Thread.midway_run (hmoves : ∀ pc w m w', T.moves pc w m w' → w' = w)
    (h : Run T.Step s ls t) (hs : s.pc = .setup p₀) :
    T.Midway p₀ s.world (recentCalls ls) t.pc t.world := by
  refine h.history (I := fun ls t => T.Midway p₀ s.world (recentCalls ls) t.pc t.world)
    (fun _ _ _ _ hs hl => hs.step hmoves hl) ?_
  rw [hs]
  exact fun t r w' hx => hx

/-- A call that is made belongs to a run of the set-up, or to one of the body of the pass. -/
theorem Thread.Midway.call (hanswers : ∀ w c, ∃ r, T.env.allows w c r) {calls : List (Event A)}
    (hs : T.Midway p₀ w₀ calls s.pc s.world) {e : Event A} (h : T.Step s (.call e) t) :
    (∃ u r w', Exec T.env w₀ p₀ (calls ++ e :: u) r w') ∨
      ∃ x p w₁ u w', s.pc = .pass x p ∧ Exec T.env w₁ (T.body x) (calls ++ e :: u) () w' := by
  cases h with
  | @setupCall c k r hpc hr =>
    rw [hpc] at hs
    obtain ⟨u, a, w', hx⟩ := exists_exec (E := T.env) hanswers (k r) (T.env.next s.world c r)
    exact .inl ⟨u, a, w', hs _ _ _ (.call hr hx)⟩
  | @passCall x c k r hpc hr =>
    rw [hpc] at hs
    obtain ⟨w₁, hrest⟩ := hs
    obtain ⟨u, a, w', hx⟩ := exists_exec (E := T.env) hanswers (k r) (T.env.next s.world c r)
    exact .inr ⟨x, _, w₁, u, w', hpc, hrest _ _ _ (.call hr hx)⟩

end

/-- A thread makes the calls of its pass one after the other. -/
theorem Thread.run_calls {p : Prog A Unit} {w w' : σ} {u v : List (Event A)} {a : Unit}
    (h : Exec T.env w p (u ++ v) a w') (x : χ) (sem : Sem limit) :
    ∃ q w₁, Run T.Step ⟨.pass x p, sem, w⟩ (u.map .call) ⟨.pass x q, sem, w₁⟩ ∧
      Exec T.env w₁ q v a w' := by
  induction u generalizing p w with
  | nil => exact ⟨p, w, .nil _, h⟩
  | cons e u ih =>
    cases h with
    | call hr h =>
      obtain ⟨q, w₁, hrun, hrest⟩ := ih h
      exact ⟨q, w₁, .cons (.passCall rfl hr) hrun, hrest⟩

/-! ## Passes that are begun -/

/-- The label is a call that meets `b`. -/
def ThreadLabel.calls (b : Event A → Bool) : ThreadLabel A μ → Bool
  | .call e => b e
  | _ => false

/-- The first call of every pass, and no other, meets `b`; and none of the set-up does. -/
structure Thread.BeginsWith (T : Thread A σ χ β μ) (p₀ : Prog A (Except β χ)) (b : Event A → Bool) :
    Prop where
  setup : ∀ w t r w', Exec T.env w p₀ t r w' → ∀ e ∈ t, b e = false
  first : ∀ x, ∃ c k, T.body x = .call c k ∧ ∀ r, b ⟨c, r⟩ = true
  once : ∀ x w t a w', Exec T.env w (T.body x) t a w' → ∀ e ∈ t.tail, b e = false

/-- The semaphore is taken, and the pass has not made a call. -/
def Thread.Due (T : Thread A σ χ β μ) (s : ThreadState A σ χ β limit) : Prop :=
  ∃ x, s.pc = .pass x (T.body x)

def ThreadPc.inPass : ThreadPc A χ β → Bool
  | .pass _ _ => true
  | _ => false

section
variable {p₀ : Prog A (Except β χ)} {b : Event A → Bool}

/-- Whenever the semaphore is down and no pass is due, each time the semaphore was given has been
followed by the beginning of a pass. -/
theorem Thread.answered (hb : T.BeginsWith p₀ b) (hlimit : 0 < limit) (h : Run T.Step s ls t)
    (ht : t.sem.count = 0) (hdue : ¬ T.Due t) :
    Answered (fun l => l.gives = true) (fun l => l.calls b = true) ls := by
  have hgives : ∀ (s : ThreadState A σ χ β limit) (l : ThreadLabel A μ) t, T.Step s l t →
      l.gives = true → 0 < t.sem.count ∨ T.Due t := by
    intro s l t hl hgives
    cases hl with
    | wake | enter =>
      refine .inl ?_
      simp only [Sem.give_count]
      omega
    | _ => cases hgives
  have hstays : ∀ (s : ThreadState A σ χ β limit) (l : ThreadLabel A μ) t, T.Step s l t →
      0 < s.sem.count ∨ T.Due s → (0 < t.sem.count ∨ T.Due t) ∨ l.calls b = true := by
    rintro s l t hl (hs | ⟨x, hx⟩)
    · cases hl with
      | wake | enter =>
        refine .inl (.inl ?_)
        simp only [Sem.give_count]
        omega
      | take => exact .inl (.inr ⟨_, rfl⟩)
      | _ => exact .inl (.inl hs)
    · cases hl with
      | wake | move => exact .inl (.inr ⟨x, hx⟩)
      | setupCall hpc | enter hpc | leave hpc | take hpc =>
        rw [hpc] at hx
        cases hx
      | passCall hpc =>
        rw [hpc] at hx
        obtain ⟨c, k, hbody, hfirst⟩ := hb.first x
        rw [hbody] at hx
        cases hx
        exact .inr (hfirst _)
      | done hpc =>
        rw [hpc] at hx
        obtain ⟨c, k, hbody, -⟩ := hb.first x
        rw [hbody] at hx
        cases hx
  exact h.answered hgives hstays (not_or.2 ⟨by omega, hdue⟩)

/-- A pass begins once. -/
theorem Thread.BeginsWith.nil_of_call (hb : T.BeginsWith p₀ b)
    (hanswers : ∀ w c, ∃ r, T.env.allows w c r) {w₀ : σ} {calls : List (Event A)}
    (hs : T.Midway p₀ w₀ calls s.pc s.world) {e : Event A} (h : T.Step s (.call e) t)
    (he : b e = true) : calls = [] ∧ s.pc.inPass = true := by
  rcases hs.call hanswers h with ⟨u, r, w', hx⟩ | ⟨x, p, w₁, u, w', hpc, hx⟩
  · have hsilent := hb.setup _ _ _ _ hx e (List.mem_append_right _ (.head u))
    rw [he] at hsilent
    cases hsilent
  · refine ⟨?_, by rw [hpc]; rfl⟩
    cases calls with
    | nil => rfl
    | cons e' calls =>
      have honce := hb.once _ _ _ _ _ hx e (List.mem_append_right _ (.head u))
      rw [he] at honce
      cases honce

/-- A pass that has made no call is still to begin. -/
def toBegin (ls : List (ThreadLabel A μ)) (s : ThreadState A σ χ β limit) : Bool :=
  s.pc.inPass && (recentCalls ls).isEmpty

/-- Only a pass that is still to begin does, and only the semaphore makes one. -/
theorem Thread.toBegin_step (hcall : ∀ e, T.Step s (.call e) t → b e = true → toBegin ls s = true)
    {l : ThreadLabel A μ} (h : T.Step s l t) :
    (toBegin (ls ++ [l]) t).toNat + (l.calls b).toNat ≤ (toBegin ls s).toNat + l.takes.toNat := by
  have hmade (e : Event A) (h : T.Step s (.call e) t) :
      (toBegin (ls ++ [.call e]) t).toNat + (b e).toNat ≤ (toBegin ls s).toNat := by
    have hnone : toBegin (ls ++ [.call e]) t = false := by
      rw [toBegin, recentCalls_concat]
      simp
    cases he : b e with
    | false => simp [hnone]
    | true => simp [hnone, hcall e h he]
  cases h with
  | wake | move =>
    rw [toBegin, recentCalls_concat]
    exact Nat.le_refl _
  | setupCall hpc hr => exact hmade _ (.setupCall hpc hr)
  | passCall hpc hr => exact hmade _ (.passCall hpc hr)
  | enter | leave | done =>
    rw [toBegin, recentCalls_concat]
    exact Nat.zero_le _
  | take =>
    rw [toBegin, recentCalls_concat]
    exact Nat.le_add_left _ _

/-- Passes are begun at most as often as the semaphore is taken. -/
theorem Thread.begins_le_takes (hb : T.BeginsWith p₀ b)
    (hanswers : ∀ w c, ∃ r, T.env.allows w c r)
    (hmoves : ∀ pc w m w', T.moves pc w m w' → w' = w) (h : Run T.Step s ls t)
    (hs : s.pc = .setup p₀) :
    ls.countP (ThreadLabel.calls b) ≤ ls.countP ThreadLabel.takes := by
  have hcount : T.Midway p₀ s.world (recentCalls ls) t.pc t.world ∧
      (toBegin ls t).toNat + ls.countP (ThreadLabel.calls b) ≤ ls.countP ThreadLabel.takes := by
    refine h.history (I := fun ls t => T.Midway p₀ s.world (recentCalls ls) t.pc t.world ∧
      (toBegin ls t).toNat + ls.countP (ThreadLabel.calls b) ≤ ls.countP ThreadLabel.takes) ?_ ?_
    · rintro ls s l t ⟨hmid, hle⟩ hl
      refine ⟨hmid.step hmoves hl, ?_⟩
      have hbegin : ∀ e, T.Step s (.call e) t → b e = true → toBegin ls s = true := by
        intro e hl he
        obtain ⟨hnil, hpass⟩ := hb.nil_of_call hanswers hmid hl he
        simp [toBegin, hnil, hpass]
      have hstep := Thread.toBegin_step hbegin hl
      have hbool (c : Bool) : (if c = true then 1 else 0) = c.toNat := by cases c <;> rfl
      simp only [List.countP_append, List.countP_singleton, hbool]
      omega
    · exact ⟨Thread.midway_run hmoves (.nil s) hs, by rw [toBegin, hs]; exact Nat.le_refl 0⟩
  exact Nat.le_of_add_left_le hcount.2

/-- There is at most one pass begun for each wake-up, and one more for the entry. -/
theorem Thread.begins_le (hb : T.BeginsWith p₀ b) (hanswers : ∀ w c, ∃ r, T.env.allows w c r)
    (hmoves : ∀ pc w m w', T.moves pc w m w' → w' = w) (h : Run T.Step s ls t)
    (hs : s.pc = .setup p₀) :
    t.sem.count + ls.countP (ThreadLabel.calls b) ≤
      s.sem.count + ls.countP ThreadLabel.wakes + 1 := by
  have hbegins := Thread.begins_le_takes hb hanswers hmoves h hs
  have htakes := Thread.passes_le h
  omega

end

end Effects
