import NrfFeather.Https.Publish
import NrfFeather.Lib.Ledger

/-!
# The heaps of a publish

A publish allocates a cJSON object and the text it prints, which come from `malloc`, and an address
list. The text has to go back through `cJSON_free`. Where `socket_setup` fails it goes to `k_free`
instead, which belongs to the kernel's heap.
-/

namespace NrfFeather

open Effects Transition Resources

/-! ## Blocks -/

/-- Where a block comes from. cJSON allocates with `malloc` by default. -/
inductive Heap where
  | malloc
  | kernel
  | resolver
  deriving DecidableEq

/-- A cJSON object with its members, a printed text, or an address list. -/
inductive Block where
  | object (ptr : Nat)
  | text (ptr : Nat)
  | addrList (ptr : Nat)
  deriving DecidableEq

def Block.home : Block → Heap
  | .object _ | .text _ => .malloc
  | .addrList _ => .resolver

/-- The block that a call allocated. -/
def allocates : Event NetCall.Ans → Option Block
  | ⟨.cJSONCreateObject, r⟩ => r.map .object
  | ⟨.cJSONPrintUnformatted _, r⟩ => r.map fun msg => .text msg.ptr
  | ⟨.getaddrinfo _ _ _, r⟩ => if r.1 = 0 then some (.addrList r.2.ptr) else none
  | _ => none

/-- The block that a call released, and the heap it was given to; to delete `NULL` does nothing. -/
def deallocates : Event NetCall.Ans → Option (Block × Heap)
  | ⟨.cJSONDelete obj, _⟩ => obj.map fun p => (.object p, .malloc)
  | ⟨.cJSONFree msg, _⟩ => some (.text msg.ptr, .malloc)
  | ⟨.kFree msg, _⟩ => some (.text msg.ptr, .kernel)
  | ⟨.freeaddrinfo res, _⟩ => some (.addrList res.ptr, .resolver)
  | _ => none

/-- The call reads or writes the block. What `socket` and `connect` are given is read from the
address list, so that either may be a use of any list. -/
def UsesBlock : Block → Event NetCall.Ans → Prop
  | .object p, ⟨.cJSONAddBoolToObject obj _ _, _⟩ | .object p, ⟨.cJSONPrintUnformatted obj, _⟩ =>
    obj = some p
  | .text p, ⟨.httpClientReq _ req _, _⟩ => req.payload.ptr = p
  | .addrList _, ⟨.socket _ _ _, _⟩ | .addrList _, ⟨.connect _ _, _⟩ => True
  | _, _ => False

def heapLedger : Ledger (Event NetCall.Ans) Block Heap :=
  ⟨allocates, deallocates, UsesBlock, Block.home⟩

/-- Every block of the trace is released once, by the deallocator of its heap, and not used
afterwards. -/
def HeapBalanced (t : List (Event NetCall.Ans)) : Prop := heapLedger.Settled t

/-! ## `socket_setup` -/

/-- The socket layer allocates and touches address lists only. -/
theorem layer_addrList {e : Event NetCall.Ans} (h : e.1.SocketLayer) {b : Block}
    (hb : heapLedger.acquires e = some b ∨ heapLedger.Touches b e) : ∃ p, b = .addrList p := by
  obtain ⟨c, r⟩ := e
  cases b with
  | addrList p => exact ⟨p, rfl⟩
  | object p | text p =>
    exfalso
    revert hb
    cases c with
    | getaddrinfo | freeaddrinfo | socket | setsockopt | connect | close =>
      simp [Ledger.Touches, heapLedger, UsesBlock, allocates, deallocates]
    | _ => exact h.elim

/-- Quiet calls neither obtain nor release anything. -/
theorem Quiet.silent {t : List (Event NetCall.Ans)} (h : Quiet t) :
    ∀ e ∈ t, heapLedger.Silent e := by
  rintro ⟨c, r⟩ he
  obtain ⟨fd, opt, rfl⟩ | ⟨fd, addr, rfl⟩ := h _ he
  · exact ⟨rfl, rfl⟩
  · exact ⟨rfl, rfl⟩

/-- The trace gives the list back, and allocates nothing. -/
def GivesBack (res : AddrInfo) (t : List (Event NetCall.Ans)) : Prop :=
  heapLedger.ReleasedIn (.addrList res.ptr) t ∧ ∀ e ∈ t, heapLedger.acquires e = none

/-- A silent call may come first. -/
theorem GivesBack.cons {res : AddrInfo} {e : Event NetCall.Ans} {t : List (Event NetCall.Ans)}
    (he : heapLedger.Silent e) (ht : GivesBack res t) : GivesBack res (e :: t) :=
  ⟨(Ledger.releasedIn_cons_iff he.releases_ne).2 ht.1, List.forall_mem_cons.2 ⟨he.1, ht.2⟩⟩

/-- So may any number of quiet ones. -/
theorem GivesBack.append {res : AddrInfo} {t u : List (Event NetCall.Ans)} (ht : Quiet t)
    (hu : GivesBack res u) : GivesBack res (t ++ u) := by
  induction t with
  | nil => exact hu
  | cons e t ih =>
    obtain ⟨-, ht'⟩ := List.forall_mem_cons.1 ht
    exact (ih ht').cons (ht.silent e (.head t))

/-- A list that was obtained is given back. -/
theorem GivesBack.balanced {res : AddrInfo} {host : String} {aiFamily aiSocktype : Nat}
    {t : List (Event NetCall.Ans)} (h : GivesBack res t) :
    HeapBalanced (⟨.getaddrinfo host aiFamily aiSocktype, (0, res)⟩ :: t) := by
  refine Ledger.settled_cons.2 ⟨?_, Ledger.settled_of_acquires h.2⟩
  rintro b ⟨⟩
  exact h.1

/-- The end of `socket_setup` gives the address list back, whichever way it was reached. -/
theorem wp_cleanUp (res : AddrInfo) (fd err : Int) (s : NetState) :
    wp NetState.env (cleanUp res fd err) (fun t _ _ => GivesBack res t) s := by
  rw [cleanUp, freeaddrinfo, Prog.perform_bind, wp_call]
  intro _ _
  split
  · rw [close, Prog.perform_bind, wp_call]
    intro _ _
    refine ⟨Ledger.releasedIn_cons rfl ?_, ?_⟩
    · simp [Ledger.Touches, heapLedger, UsesBlock, deallocates]
    · simp [heapLedger, allocates]
  · have hone : GivesBack res [⟨.freeaddrinfo res, ()⟩] :=
      ⟨Ledger.releasedIn_cons rfl (List.forall_mem_nil _), List.forall_mem_singleton.2 rfl⟩
    split
    · exact hone
    · exact hone

/-- `socket_setup` gives back what it obtained, whatever fails. -/
theorem wp_socketSetup_balanced (cfg : CloudConfig) (s : NetState) :
    wp NetState.env (socketSetup cfg) (fun t _ _ => HeapBalanced t) s := by
  rw [socketSetup, getaddrinfo, Prog.perform_bind, wp_call]
  rintro ⟨err, res⟩ hres
  dsimp only
  split
  · next herr =>
    exact Ledger.settled_of_acquires (List.forall_mem_singleton.2 (if_neg herr))
  · next herr =>
    obtain rfl : err = 0 := not_not.1 herr
    rw [socket, Prog.perform_bind, wp_call]
    intro fd hfd
    refine wp_mono (fun _ _ _ => GivesBack.balanced) ?_
    split
    · refine wp_mono ?_ (wp_cleanUp _ fd (-ECONNABORTED) _)
      intro t rc s' h
      exact GivesBack.cons ⟨rfl, rfl⟩ h
    · next hne =>
      obtain ⟨hfd, -⟩ : 0 ≤ fd ∧ _ := hfd.resolve_left hne
      have hopen : ((s.next (.getaddrinfo cfg.hostname AF_INET SOCK_STREAM) (0, res)).next
          (.socket res.aiFamily SOCK_STREAM IPPROTO_TLS_1_2) fd).socks fd = some ⟨[], none⟩ := by
        simp only [NetState.next, if_pos hfd, NetState.setSock_socks_self]
      rw [wp_bind]
      refine wp_mono ?_ (wp_socketConnect cfg _ hopen)
      intro t err s₁ hconnect
      refine wp_mono ?_ (wp_cleanUp _ fd err s₁)
      intro u rc s' h
      exact GivesBack.cons ⟨rfl, rfl⟩ (.append hconnect.quiet h)

/-! ## A publish -/

/-- The object is deleted once its text is printed, so that only the text is left to release. -/
theorem balanced_jsonTrace_append {data : DeviceData} {obj : Option Nat} {added : Bool}
    {msg : Option Msg} {t : List (Event NetCall.Ans)}
    (ht : ∀ e ∈ t, ∀ p, ¬ heapLedger.Touches (.object p) e) :
    HeapBalanced (jsonTrace data obj added msg ++ t) ↔
      (∀ m, msg = some m → heapLedger.ReleasedIn (.text m.ptr) t) ∧ HeapBalanced t := by
  have hadd : ∀ b h, heapLedger.releases ⟨.cJSONAddBoolToObject obj "do_something"
      data.doSomething, added⟩ ≠ some (b, h) := nofun
  have hprint : ∀ b h, heapLedger.releases ⟨.cJSONPrintUnformatted obj, msg⟩ ≠ some (b, h) := nofun
  have hobject : ∀ b, heapLedger.acquires ⟨.cJSONCreateObject, obj⟩ = some b →
      heapLedger.ReleasedIn b (⟨.cJSONDelete obj, ()⟩ :: t) := by
    intro b hb
    obtain ⟨p, rfl, rfl⟩ := Option.map_eq_some_iff.1 hb
    exact Ledger.releasedIn_cons rfl fun e he => ht e he p
  have hdelete : ∀ p h, heapLedger.releases ⟨.cJSONDelete obj, ()⟩ ≠ some (.text p, h) := by
    intro p h hc
    obtain ⟨q, -, hq⟩ := Option.map_eq_some_iff.1 hc
    cases hq
  unfold HeapBalanced jsonTrace
  simp only [List.cons_append, List.nil_append, Ledger.settled_cons]
  refine ⟨?_, ?_⟩
  · rintro ⟨-, -, htext, -, hrest⟩
    refine ⟨?_, hrest⟩
    rintro m rfl
    exact (Ledger.releasedIn_cons_iff (hdelete m.ptr)).1 (htext _ rfl)
  · rintro ⟨htext, hrest⟩
    refine ⟨?_, nofun, ?_, nofun, hrest⟩
    · intro b hb
      have hprinted := (Ledger.releasedIn_cons_iff (hprint b)).2 (hobject b hb)
      exact (Ledger.releasedIn_cons_iff (hadd b)).2 hprinted
    · intro b hb
      obtain ⟨m, rfl, rfl⟩ := Option.map_eq_some_iff.1 hb
      exact (Ledger.releasedIn_cons_iff (hdelete m.ptr)).2 (htext m rfl)

/-- Every call to the socket layer succeeded. -/
def SocketsOk (t : List (Event NetCall.Ans)) : Prop := ∀ e ∈ t, e.1.SocketLayer → e.1.Ok e.2

/-- The calls of the socket layer within a trace have succeeded. -/
theorem SocketsOk.of_append {t u v : List (Event NetCall.Ans)} (h : SocketsOk (t ++ (u ++ v)))
    (hlayer : ∀ e ∈ u, e.1.SocketLayer) : AllOk u := by
  intro e he
  exact h e (List.mem_append_right t (List.mem_append_left v he)) (hlayer e he)

/-- Building and printing the object calls nothing of the socket layer. -/
theorem socketsOk_jsonTrace {data : DeviceData} {obj : Option Nat} {added : Bool}
    {msg : Option Msg} : SocketsOk (jsonTrace data obj added msg) := by
  simp [SocketsOk, jsonTrace, NetCall.SocketLayer]

/-- A publish balances the heaps exactly if no call to the socket layer failed. -/
theorem wp_cloudPublish_balanced (cfg : CloudConfig) (data : DeviceData) (s : NetState) :
    wp NetState.env (cloudPublish cfg data) (fun t _ _ => HeapBalanced t ↔ SocketsOk t) s := by
  refine wp_json data ?_
  intro obj added msg _ _
  cases msg with
  | none =>
    refine iff_of_true ((balanced_jsonTrace_append (List.forall_mem_nil _)).2 ?_) ?_
    · exact ⟨by simp, Ledger.settled_nil⟩
    · rw [List.append_nil]
      exact socketsOk_jsonTrace
  | some msg =>
    simp only [wp_bind]
    refine wp_mono ?_ (wp_and (wp_socketSetup cfg s) (wp_socketSetup_balanced cfg s))
    rintro t fd s₁ ⟨hsetup, hbalanced⟩
    have hobject : ∀ e ∈ t, ∀ p, ¬ heapLedger.Touches (.object p) e := by
      intro e he p h
      obtain ⟨q, hq⟩ := layer_addrList (hsetup.layer e he) (.inr h)
      cases hq
    have htext : ∀ e ∈ t, ∀ h, heapLedger.releases e ≠ some (.text msg.ptr, h) := by
      intro e he h hr
      obtain ⟨q, hq⟩ := layer_addrList (hsetup.layer e he) (.inr (.inr ⟨h, hr⟩))
      cases hq
    split
    · next hfd =>
      rw [kFree, Prog.perform_bind, wp_call]
      intro _ _
      refine iff_of_false ?_ ?_
      · -- the text came from `malloc`
        intro h
        have htail : ∀ e ∈ t ++ [⟨.kFree msg, ()⟩], ∀ p, ¬ heapLedger.Touches (.object p) e :=
          List.forall_mem_append.2 ⟨hobject, by simp [Ledger.Touches, heapLedger, UsesBlock,
            deallocates]⟩
        have hreleased := ((balanced_jsonTrace_append htail).1 h).1 msg rfl
        obtain ⟨e, he, hmalloc⟩ := ((Ledger.releasedIn_append_iff htext).1 hreleased).exists
        rw [List.mem_singleton.1 he] at hmalloc
        cases hmalloc
      · intro h
        exact absurd (hsetup.ok.2 (h.of_append hsetup.layer)) (Int.not_le.2 hfd)
    · next hfd =>
      rw [httpClientReq, Prog.perform_bind, wp_call]
      intro r _
      rw [close, Prog.perform_bind, wp_call]
      intro c _
      rw [cJSONFree, Prog.perform_bind, wp_call]
      intro _ _
      have hbalances : HeapBalanced (jsonTrace data obj added (some msg) ++
          (t ++ requestTrace cfg msg fd r c)) := by
        have htail : ∀ e ∈ requestTrace cfg msg fd r c, ∀ p,
            ¬ heapLedger.Touches (.object p) e ∧ ¬ heapLedger.Touches (.addrList p) e := by
          simp [requestTrace, Ledger.Touches, heapLedger, UsesBlock, deallocates]
        refine (balanced_jsonTrace_append (List.forall_mem_append.2
          ⟨hobject, fun e he p => (htail e he p).1⟩)).2 ⟨?_, ?_⟩
        · rintro m ⟨⟩
          have hreq : heapLedger.Silent ⟨.httpClientReq fd (publishRequest cfg msg) timeout, r⟩ :=
            ⟨rfl, rfl⟩
          have hclose : heapLedger.Silent ⟨.close fd, c⟩ := ⟨rfl, rfl⟩
          refine (Ledger.releasedIn_append_iff htext).2 ?_
          refine (Ledger.releasedIn_cons_iff hreq.releases_ne).2 ?_
          refine (Ledger.releasedIn_cons_iff hclose.releases_ne).2 ?_
          exact Ledger.releasedIn_cons rfl (List.forall_mem_nil _)
        · refine hbalanced.append (Ledger.settled_of_acquires ?_) ?_
          · simp [requestTrace, heapLedger, allocates]
          · intro e he b hb f hf
            obtain ⟨p, rfl⟩ := layer_addrList (hsetup.layer e he) (.inl hb)
            exact (htail f hf p).2
      have hall : AllOk t := hsetup.ok.1 (Int.not_lt.1 hfd)
      refine iff_of_true hbalances ?_
      refine List.forall_mem_append.2 ⟨socketsOk_jsonTrace, List.forall_mem_append.2 ⟨?_, ?_⟩⟩
      · exact fun e he _ => hall e he
      · simp [NetCall.SocketLayer, NetCall.Ok]

/-! ## Any number of publishes -/

/-- In every run of publishes, and for every outcome of every call: a publish releases each block
it allocates once, by the deallocator of its heap, and does not use it afterwards, exactly if no
call it made to the socket layer failed. -/
theorem publishes_heap_balanced_iff (cfg : CloudConfig) {s s' : NetState} {ls : List Publish}
    (h : Run (PubStep cfg) s ls s') : ∀ l ∈ ls, HeapBalanced l.trace ↔ SocketsOk l.trace :=
  h.forall_mem fun _ _ _ hl => hl.of_wp (wp_cloudPublish_balanced cfg _ _)

/-- A publish in which nothing fails. -/
theorem publishes_heap_balanced_iff_sent : HeapBalanced (answered ⟨true⟩ true).trace := by
  have hsockets : SocketsOk (answered ⟨true⟩ true).trace :=
    fun e he _ => runWith_forall (answers_ok ⟨true⟩) _ _ e he
  exact (publishes_heap_balanced_iff sampleCloud (.cons (answered_step ⟨true⟩ true) (.nil _)) _
    (.head _)).2 hsockets

/-- The connection is refused, and the text is given to the kernel's heap. -/
theorem refused_publish_unbalanced :
    PubStep sampleCloud .empty (answered ⟨true⟩ false) .empty ∧
      ⟨.kFree ⟨2, (encoded ⟨true⟩ true).render⟩, ()⟩ ∈ (answered ⟨true⟩ false).trace ∧
      ¬ HeapBalanced (answered ⟨true⟩ false).trace := by
  have hstep := answered_step ⟨true⟩ false
  have hmem : ⟨.connect 0 ⟨0x01020304, 443⟩, (-1, 111)⟩ ∈ (answered ⟨true⟩ false).trace ∧
      ⟨.kFree ⟨2, (encoded ⟨true⟩ true).render⟩, ()⟩ ∈ (answered ⟨true⟩ false).trace := by
    rw [answered_refused_trace]
    simp
  refine ⟨hstep, hmem.2, ?_⟩
  intro h
  have hsockets := (hstep.of_wp (wp_cloudPublish_balanced sampleCloud _ _)).1 h
  have hok : (-1 : Int) = 0 := hsockets _ hmem.1 trivial
  exact absurd hok (by decide)

end NrfFeather
