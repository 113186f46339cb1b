import NrfFeather.Https.Cloud
import NrfFeather.Lib.Transition

/-!
# Sockets

What `socket_setup` and `cloud_publish` do to descriptors and address lists, for every outcome of
every call: a socket that `socket_setup` returns is connected, and had accepted all seven options
before; a request is made on such a socket only; and `cloud_publish` closes what it opened, frees
what it obtained, and leaves everything else alone.
-/

namespace NrfFeather

open Effects Transition JsonText

/-! ## Worlds -/

namespace NetState

variable {s : NetState}

/-- The last setting of a descriptor counts. -/
theorem setSock_setSock (fd : Int) (k k' : Option Sock) :
    (s.setSock fd k).setSock fd k' = s.setSock fd k' := by
  simp [setSock]

/-- Setting a descriptor to what it is changes nothing. -/
theorem setSock_eq_self {fd : Int} {k : Option Sock} (h : s.socks fd = k) :
    s.setSock fd k = s := by
  rw [setSock, ← h, Function.update_eq_self]

/-- The last setting of an address list counts. -/
theorem setList_setList (ptr : Nat) (b b' : Bool) :
    (s.setList ptr b).setList ptr b' = s.setList ptr b' := by
  simp [setList]

/-- Setting an address list to what it is changes nothing. -/
theorem setList_eq_self {ptr : Nat} {b : Bool} (h : s.lists ptr = b) : s.setList ptr b = s := by
  rw [setList, ← h, Function.update_eq_self]

/-- The last setting of a cJSON object counts. -/
theorem setObj_setObj (ptr : Nat) (ms ms' : Option (List (String × Json))) :
    (s.setObj ptr ms).setObj ptr ms' = s.setObj ptr ms' := by
  simp [setObj]

/-- Setting a cJSON object to what it is changes nothing. -/
theorem setObj_eq_self {ptr : Nat} {ms : Option (List (String × Json))} (h : s.objs ptr = ms) :
    s.setObj ptr ms = s := by
  rw [setObj, ← h, Function.update_eq_self]

/-- Descriptors and address lists do not interfere. -/
theorem setSock_setList (fd : Int) (k : Option Sock) (ptr : Nat) (b : Bool) :
    (s.setSock fd k).setList ptr b = (s.setList ptr b).setSock fd k := rfl

@[simp] theorem setSock_socks_self (fd : Int) (k : Option Sock) :
    (s.setSock fd k).socks fd = k := by
  simp [setSock]

@[simp] theorem setObj_objs_self (ptr : Nat) (ms : Option (List (String × Json))) :
    (s.setObj ptr ms).objs ptr = ms := by
  simp [setObj]

end NetState

/-! ## What a trace does to descriptors and lists -/

/-- The descriptor a call opened. -/
def opensFd : Event NetCall.Ans → Option Int
  | ⟨.socket _ _ _, r⟩ => if 0 ≤ r then some r else none
  | _ => none

/-- The descriptor a call closed. -/
def closesFd : Event NetCall.Ans → Option Int
  | ⟨.close fd, _⟩ => some fd
  | _ => none

/-- The address list a call obtained. -/
def obtainsList : Event NetCall.Ans → Option Nat
  | ⟨.getaddrinfo _ _ _, r⟩ => if r.1 = 0 then some r.2.ptr else none
  | _ => none

/-- The address list a call freed. -/
def freesList : Event NetCall.Ans → Option Nat
  | ⟨.freeaddrinfo res, _⟩ => some res.ptr
  | _ => none

/-- All calls of the trace succeeded. -/
def AllOk (t : List (Event NetCall.Ans)) : Prop := ∀ e ∈ t, e.1.Ok e.2

/-- All calls of two traces succeed when those of each do. -/
theorem allOk_append {t u : List (Event NetCall.Ans)} : AllOk (t ++ u) ↔ AllOk t ∧ AllOk u :=
  List.forall_mem_append

theorem allOk_singleton {c : NetCall} {r : c.Ans} : AllOk [⟨c, r⟩] ↔ c.Ok r :=
  List.forall_mem_singleton

/-- The trace only sets options and connects. -/
def Quiet (t : List (Event NetCall.Ans)) : Prop :=
  ∀ e ∈ t, (∃ fd opt, e.1 = .setsockopt fd opt) ∨ ∃ fd addr, e.1 = .connect fd addr

/-- Quiet calls open, close, obtain and free nothing. -/
theorem Quiet.filterMap {t : List (Event NetCall.Ans)} (h : Quiet t) :
    t.filterMap opensFd = [] ∧ t.filterMap closesFd = [] ∧ t.filterMap obtainsList = [] ∧
      t.filterMap freesList = [] := by
  simp only [List.filterMap_eq_nil_iff]
  refine ⟨?_, ?_, ?_, ?_⟩
  all_goals
    rintro ⟨c, r⟩ he
    obtain ⟨fd, opt, hc⟩ | ⟨fd, addr, hc⟩ := h _ he
    all_goals
      cases hc
      rfl

/-! ## Setting options -/

/-- The options `tls_setup` sets. -/
def tlsOpts (cfg : CloudConfig) : List SockOpt :=
  [.tlsPeerVerify .required, .tlsSecTagList [cfg.tlsSecTag], .tlsCiphersuiteList [0xc02b],
    .tlsHostname cfg.hostname, .tlsSessionCache true]

/-- The options a socket has accepted before it is connected. -/
def requiredOpts (cfg : CloudConfig) : List SockOpt :=
  [.soRcvtimeo 5, .soSndtimeo 5] ++ tlsOpts cfg

/-- What setting up the socket `fd` comes to: a negative code and a failed call, or 0 and a socket
in the state `goal`. Other sockets are left alone. -/
structure SockPost (fd : Int) (s : NetState) (goal : Sock) (t : List (Event NetCall.Ans))
    (err : Int) (s' : NetState) : Prop where
  quiet : Quiet t
  le : err ≤ 0
  ok : err = 0 ↔ AllOk t
  world : ∃ k, s' = s.setSock fd (some k) ∧ (err = 0 → k = goal)

/-- A set-up that is done. -/
theorem SockPost.ret {fd : Int} {s : NetState} {goal : Sock} (hs : s.socks fd = some goal) :
    SockPost fd s goal [] 0 s :=
  ⟨nofun, Int.le_refl 0, iff_of_true rfl nofun,
    ⟨goal, (NetState.setSock_eq_self hs).symm, fun _ => rfl⟩⟩

/-- After an error the goal is of no interest. -/
theorem SockPost.of_neg {fd : Int} {s s' : NetState} {goal goal' : Sock}
    {t : List (Event NetCall.Ans)} {err : Int} (h : SockPost fd s goal t err s')
    (herr : err < 0) : SockPost fd s goal' t err s' := by
  obtain ⟨k, hk, -⟩ := h.world
  exact ⟨h.quiet, h.le, h.ok, ⟨k, hk, fun h0 => by omega⟩⟩

/-- A set-up that succeeds leaves the descriptor as it is meant to be. -/
theorem SockPost.socks {fd : Int} {s s' : NetState} {goal : Sock} {t : List (Event NetCall.Ans)}
    (h : SockPost fd s goal t 0 s') : s'.socks fd = some goal := by
  obtain ⟨k, rfl, hk⟩ := h.world
  rw [NetState.setSock_socks_self, hk rfl]

/-- Two parts of a set-up in a row, where the first one succeeds. -/
theorem SockPost.append {fd : Int} {s s₁ s' : NetState} {mid goal : Sock}
    {t u : List (Event NetCall.Ans)} {err : Int} (h : SockPost fd s mid t 0 s₁)
    (h' : SockPost fd s₁ goal u err s') : SockPost fd s goal (t ++ u) err s' := by
  obtain ⟨k, rfl, -⟩ := h.world
  obtain ⟨k', rfl, hk'⟩ := h'.world
  refine ⟨?_, h'.le, ?_, ⟨k', NetState.setSock_setSock fd _ _, hk'⟩⟩
  · intro e he
    rcases List.mem_append.1 he with he | he
    · exact h.quiet e he
    · exact h'.quiet e he
  · rw [allOk_append, ← h'.ok]
    exact ⟨fun herr => ⟨h.ok.1 rfl, herr⟩, fun herr => herr.2⟩

/-- A single call: its code says whether it succeeded. -/
theorem SockPost.one {fd : Int} {s s' : NetState} {k goal : Sock} {c : NetCall} {r : c.Ans}
    {err : Int} (hc : (∃ fd opt, c = .setsockopt fd opt) ∨ ∃ fd addr, c = .connect fd addr)
    (hle : err ≤ 0) (hok : err = 0 ↔ c.Ok r) (hs' : s' = s.setSock fd (some k))
    (hk : err = 0 → k = goal) : SockPost fd s goal [⟨c, r⟩] err s' :=
  ⟨List.forall_mem_singleton.2 hc, hle, hok.trans allOk_singleton.symm, ⟨k, hs', hk⟩⟩

/-- An option that is accepted. -/
theorem SockPost.setsockopt {fd : Int} {s : NetState} {sock : Sock} (hs : s.socks fd = some sock)
    (opt : SockOpt) {r : Int × Int} (hr : r.1 = 0) :
    SockPost fd s (sock.accept opt) [⟨.setsockopt fd opt, r⟩] 0
      (s.next (.setsockopt fd opt) r) := by
  have hnext : s.next (.setsockopt fd opt) r = s.setSock fd (some (sock.accept opt)) := by
    simp [NetState.next, hr, hs]
  exact .one (.inl ⟨fd, opt, rfl⟩) (Int.le_refl 0) (iff_of_true rfl hr) hnext fun _ => rfl

/-- The connection, whatever it returns. -/
theorem SockPost.connect {fd : Int} {s : NetState} {sock : Sock} (hs : s.socks fd = some sock)
    (addr : SockAddrIn) {r : Int × Int} (hr : r.1 = 0) :
    SockPost fd s sock.connect [⟨.connect fd addr, r⟩] r.1 (s.next (.connect fd addr) r) := by
  have hnext : s.next (.connect fd addr) r = s.setSock fd (some sock.connect) := by
    simp [NetState.next, hr, hs]
  exact .one (.inr ⟨fd, addr, rfl⟩) (Int.le_of_eq hr) (iff_of_true hr hr) hnext fun _ => rfl

/-- After a call that failed the code is `-errno`, and the world as it was. -/
theorem SockPost.fail {fd : Int} {s : NetState} {sock goal : Sock} {c : NetCall} {r : c.Ans}
    {errno : Int} (hs : s.socks fd = some sock)
    (hc : (∃ fd opt, c = .setsockopt fd opt) ∨ ∃ fd addr, c = .connect fd addr)
    (hfail : ¬c.Ok r) (hnext : s.next c r = s) (herrno : 0 < errno) :
    SockPost fd s goal [⟨c, r⟩] (-errno) (s.next c r) := by
  have hworld : s.next c r = s.setSock fd (some sock) := by
    rw [hnext, NetState.setSock_eq_self hs]
  exact .one hc (by omega) (iff_of_false (by omega) hfail) hworld fun h => by omega

/-- Setting an option, and giving up with `-errno` when it is refused, is a step towards any
goal. -/
theorem wp_setsockopt_or {fd : Int} {s : NetState} {sock goal : Sock} {opt : SockOpt}
    {p : Prog NetCall.Ans Int} (hs : s.socks fd = some sock)
    (hp : ∀ s₁ : NetState, s₁.socks fd = some (sock.accept opt) →
      wp NetState.env p (SockPost fd s₁ goal) s₁) :
    wp NetState.env
      (do
        let (err, errno) ← setsockopt fd opt
        if err ≠ 0 then
          return -errno
        p)
      (SockPost fd s goal) s := by
  simp only [setsockopt, Prog.perform_bind, wp_call]
  intro r hr
  by_cases hr0 : r.1 = 0
  · have hstep := SockPost.setsockopt hs opt hr0
    have hnext : (s.next (.setsockopt fd opt) r).socks fd = some (sock.accept opt) := by
      simp [NetState.next, hr0, hs]
    simp only [hr0, ne_eq, not_true, if_false]
    exact wp_mono (fun t err s' h => hstep.append h) (hp _ hnext)
  · simp only [hr0, ne_eq, not_false_eq_true, if_true, Prog.pure_eq, wp_ret]
    rcases hr with ⟨hr, -⟩ | ⟨-, herrno⟩
    · exact absurd hr hr0
    · exact SockPost.fail hs (.inl ⟨fd, opt, rfl⟩) hr0 (if_neg hr0) herrno

/-- `tls_setup` sets its options one by one, and stops at the first that is refused. -/
theorem wp_tlsSetup (cfg : CloudConfig) {fd : Int} {s : NetState} {sock : Sock}
    (hs : s.socks fd = some sock) :
    wp NetState.env (tlsSetup cfg fd)
      (SockPost fd s { sock with opts := sock.opts ++ tlsOpts cfg }) s := by
  refine wp_setsockopt_or hs ?_
  intro s₁ h₁
  refine wp_setsockopt_or h₁ ?_
  intro s₂ h₂
  refine wp_setsockopt_or h₂ ?_
  intro s₃ h₃
  refine wp_setsockopt_or h₃ ?_
  intro s₄ h₄
  refine wp_setsockopt_or h₄ ?_
  intro s₅ h₅
  refine SockPost.ret ?_
  rw [h₅]
  simp [Sock.accept, tlsOpts]

/-- A fresh socket that is set up without an error is connected, with all options before. -/
theorem wp_socketConnect (cfg : CloudConfig) {fd : Int} (res : AddrInfo) {s : NetState}
    (hs : s.socks fd = some ⟨[], none⟩) :
    wp NetState.env (socketConnect cfg fd res)
      (SockPost fd s ⟨requiredOpts cfg, some (requiredOpts cfg)⟩) s := by
  refine wp_setsockopt_or hs ?_
  intro s₁ h₁
  refine wp_setsockopt_or h₁ ?_
  intro s₂ h₂
  rw [wp_bind]
  refine wp_mono ?_ (wp_tlsSetup cfg h₂)
  intro t err s₃ htls
  by_cases herr : err < 0
  · simp only [herr, if_true, Prog.pure_eq, wp_ret, List.append_nil]
    exact htls.of_neg herr
  · have herr0 : err = 0 := by
      have := htls.le
      omega
    subst herr0
    simp only [herr, if_false, connect, Prog.perform_bind, wp_call]
    intro r hr
    by_cases hneg : r.1 < 0
    · rcases hr with ⟨hr, -⟩ | ⟨-, herrno⟩
      · omega
      · simp only [hneg, if_true, Prog.pure_eq, wp_ret]
        have hne : r.1 ≠ 0 := Int.ne_of_lt hneg
        exact htls.append (.fail htls.socks (.inr ⟨fd, _, rfl⟩) hne (if_neg hne) herrno)
    · rcases hr with ⟨hr, -⟩ | ⟨hr, -⟩
      · simp only [hneg, if_false, Prog.pure_eq, wp_ret]
        have hconnect := htls.append (.connect htls.socks res.aiAddr hr)
        simpa [Sock.accept, Sock.connect, requiredOpts, NetState.env] using hconnect
      · omega

/-! ## `socket_setup` -/

/-- A call to the socket layer. -/
def NetCall.SocketLayer : NetCall → Prop
  | .getaddrinfo _ _ _ | .freeaddrinfo _ | .socket _ _ _ | .setsockopt _ _ | .connect _ _
  | .close _ => True
  | _ => False

/-- Quiet calls are calls of the socket layer. -/
theorem Quiet.layer {t : List (Event NetCall.Ans)} (h : Quiet t) : ∀ e ∈ t, e.1.SocketLayer := by
  rintro ⟨c, r⟩ he
  obtain ⟨fd, opt, rfl⟩ | ⟨fd, addr, rfl⟩ := h _ he
  · trivial
  · trivial

/-- The socket that `socket_setup` makes. -/
def readySock (cfg : CloudConfig) : Sock := ⟨requiredOpts cfg, some (requiredOpts cfg)⟩

/-- What `socket_setup` comes to: a new socket that is ready, all calls having succeeded, or a
negative code and the world as it was. The address list is given back in any case. -/
structure SetupPost (cfg : CloudConfig) (s : NetState) (t : List (Event NetCall.Ans)) (rc : Int)
    (s' : NetState) : Prop where
  layer : ∀ e ∈ t, e.1.SocketLayer
  ok : 0 ≤ rc ↔ AllOk t
  lists : t.filterMap freesList = t.filterMap obtainsList
  world : (0 ≤ rc ∧ t.filterMap opensFd = [rc] ∧ t.filterMap closesFd = [] ∧ s.socks rc = none ∧
      s' = s.setSock rc (some (readySock cfg))) ∨
    (rc < 0 ∧ t.filterMap closesFd = t.filterMap opensFd ∧ s' = s)

/-- What becomes of the fresh socket `fd`: it is ready, or closed again. The address list is
freed. -/
structure CleanPost (cfg : CloudConfig) (fd : Int) (res : AddrInfo) (s : NetState)
    (t : List (Event NetCall.Ans)) (rc : Int) (s' : NetState) : Prop where
  layer : ∀ e ∈ t, e.1.SocketLayer
  ok : 0 ≤ rc ↔ AllOk t
  obtains : t.filterMap obtainsList = []
  frees : t.filterMap freesList = [res.ptr]
  opens : t.filterMap opensFd = []
  world : (rc = fd ∧ t.filterMap closesFd = [] ∧
      s' = (s.setList res.ptr false).setSock fd (some (readySock cfg))) ∨
    (rc < 0 ∧ t.filterMap closesFd = [fd] ∧ s' = (s.setList res.ptr false).setSock fd none)

/-- From an open descriptor on, the set-up either leaves it connected with all options, or closes
it; the address list is freed in both cases. -/
theorem wp_socketConnect_cleanUp (cfg : CloudConfig) {fd : Int} (hfd : 0 ≤ fd) (res : AddrInfo)
    {s : NetState} (hs : s.socks fd = some ⟨[], none⟩) :
    wp NetState.env (socketConnect cfg fd res >>= cleanUp res fd) (CleanPost cfg fd res s) s := by
  rw [wp_bind]
  refine wp_mono ?_ (wp_socketConnect cfg res hs)
  intro t err s₁ h
  obtain ⟨hopen, hclose, hobtain, hfree⟩ := h.quiet.filterMap
  obtain ⟨k, rfl, hk⟩ := h.world
  rcases Int.lt_or_eq_of_le h.le with herr | rfl
  · have hclean : err < 0 ∧ fd > -1 := ⟨herr, by omega⟩
    simp only [cleanUp, freeaddrinfo, close, Prog.perform_bind, wp_call, if_pos hclean,
      Prog.pure_eq, wp_ret]
    intro _ _ rclose _
    refine ⟨?_, iff_of_false (by omega) ?_, ?_, ?_, ?_, .inr ⟨herr, ?_, ?_⟩⟩
    · exact List.forall_mem_append.2 ⟨h.quiet.layer, by simp [NetCall.SocketLayer]⟩
    · intro hall
      have := h.ok.2 (allOk_append.1 hall).1
      omega
    · simp [hobtain, List.filterMap_cons, obtainsList]
    · simp [hfree, List.filterMap_cons, freesList]
    · simp [hopen, List.filterMap_cons, opensFd]
    · simp [hclose, List.filterMap_cons, closesFd]
    · exact NetState.setSock_setSock (s := s.setList res.ptr false) fd _ _
  · have hret : ¬((0 : Int) < 0) := Int.lt_irrefl 0
    simp only [cleanUp, freeaddrinfo, Prog.perform_bind, wp_call, hret, false_and, if_false,
      Prog.pure_eq, wp_ret]
    intro _ _
    refine ⟨?_, iff_of_true hfd ?_, ?_, ?_, ?_, .inl ⟨rfl, ?_, ?_⟩⟩
    · exact List.forall_mem_append.2 ⟨h.quiet.layer, by simp [NetCall.SocketLayer]⟩
    · exact allOk_append.2 ⟨h.ok.1 rfl, by simp [AllOk, NetCall.Ok]⟩
    · simp [hobtain, List.filterMap_cons, obtainsList]
    · simp [hfree, freesList]
    · simp [hopen, List.filterMap_cons, opensFd]
    · simp [hclose, List.filterMap_cons, closesFd]
    · rw [hk rfl]
      rfl

/-- The trace of `socket_setup` around the fresh socket. -/
theorem CleanPost.setup {cfg : CloudConfig} {fd : Int} {res : AddrInfo} {addr : SockAddrIn}
    {s s' : NetState} {t : List (Event NetCall.Ans)} {rc : Int} {host : String}
    {aiFamily aiSocktype family type proto : Nat} (hfd : 0 ≤ fd)
    (hfree : s.lists res.ptr = false) (hclosed : s.socks fd = none)
    (h : CleanPost cfg fd { res with aiAddr := addr }
      ((s.setList res.ptr true).setSock fd (some ⟨[], none⟩)) t rc s') :
    SetupPost cfg s (⟨.getaddrinfo host aiFamily aiSocktype, (0, res)⟩ ::
      ⟨.socket family type proto, fd⟩ :: t) rc s' := by
  -- whatever becomes of the socket, the list is given back
  have hworld (k : Option Sock) :
      (((s.setList res.ptr true).setSock fd (some ⟨[], none⟩)).setList res.ptr false).setSock fd
        k = s.setSock fd k := by
    rw [NetState.setSock_setList, NetState.setList_setList, NetState.setList_eq_self hfree,
      NetState.setSock_setSock]
  refine ⟨?_, ?_, ?_, ?_⟩
  · exact List.forall_mem_cons.2 ⟨trivial, List.forall_mem_cons.2 ⟨trivial, h.layer⟩⟩
  · simpa [AllOk, NetCall.Ok, hfd] using h.ok
  · simp [List.filterMap_cons, freesList, obtainsList, h.frees, h.obtains]
  · simp only [List.filterMap_cons, opensFd, closesFd, hfd, if_true, h.opens]
    rcases h.world with ⟨rfl, hclose, hs'⟩ | ⟨hrc, hclose, hs'⟩
    · exact .inl ⟨hfd, rfl, hclose, hclosed, hs'.trans (hworld _)⟩
    · have hback := (hworld none).trans (NetState.setSock_eq_self hclosed)
      exact .inr ⟨hrc, hclose, hs'.trans hback⟩

/-- `socket_setup` returns a connected descriptor, or none and leaves nothing open. -/
theorem wp_socketSetup (cfg : CloudConfig) (s : NetState) :
    wp NetState.env (socketSetup cfg) (SetupPost cfg s) s := by
  simp only [socketSetup, getaddrinfo, Prog.perform_bind, wp_call]
  rintro ⟨err, res⟩ hres
  rcases hres with herr | ⟨rfl, hfree⟩
  · have hne : err ≠ 0 := Int.ne_of_lt herr
    simp only [hne, ne_eq, not_false_eq_true, if_true, Prog.pure_eq, wp_ret]
    refine ⟨by simp [NetCall.SocketLayer], iff_of_false (by omega) ?_, ?_,
      .inr ⟨herr, ?_, if_neg hne⟩⟩
    · simpa [AllOk, NetCall.Ok] using hne
    · simp [List.filterMap_cons, freesList, obtainsList, hne]
    · simp [List.filterMap_cons, opensFd, closesFd]
  · simp only [ne_eq, not_true, if_false, socket, Prog.perform_bind, wp_call]
    intro (fd : Int) (hfd : fd = -1 ∨ 0 ≤ fd ∧ s.socks fd = none)
    rcases hfd with rfl | ⟨hfd, hclosed⟩
    · have hgt : ¬((-1 : Int) > -1) := Int.lt_irrefl (-1)
      have hneg : -ECONNABORTED < 0 := by decide
      have hgive : (s.setList res.ptr true).setList res.ptr false = s := by
        rw [NetState.setList_setList, NetState.setList_eq_self hfree]
      simp only [if_true, cleanUp, freeaddrinfo, Prog.perform_bind, wp_call, hgt, and_false,
        if_false, hneg, Prog.pure_eq, wp_ret]
      intro _ _
      refine ⟨by simp [NetCall.SocketLayer], iff_of_false (Int.not_le.2 hneg) ?_, ?_,
        .inr ⟨hneg, ?_, hgive⟩⟩
      · simp [AllOk, NetCall.Ok]
      · simp [List.filterMap_cons, freesList, obtainsList]
      · simp [List.filterMap_cons, opensFd, closesFd]
    · have hne : fd ≠ -1 := by omega
      have hfresh : NetState.env.next (s.setList res.ptr true)
          (.socket res.aiFamily SOCK_STREAM IPPROTO_TLS_1_2) fd =
          (s.setList res.ptr true).setSock fd (some ⟨[], none⟩) := if_pos hfd
      have hopen := wp_socketConnect_cleanUp cfg hfd
        { res with aiAddr := { res.aiAddr with sinPort := cfg.port } }
        (NetState.setSock_socks_self (s := s.setList res.ptr true) fd (some ⟨[], none⟩))
      simp only [hne, if_false]
      rw [← hfresh] at hopen
      refine wp_mono (?_) hopen
      intro t rc s' h
      rw [hfresh] at h
      exact h.setup hfd hfree hclosed

end NrfFeather
