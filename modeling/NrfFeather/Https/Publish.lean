import NrfFeather.Https.Sockets

/-!
# Publishes

The shapes a run of `cloud_publish` can have, and what follows for any number of publishes:
requests are made on secured descriptors only, and every publish closes what it opened, frees what
it obtained, and leaves everything else alone.
-/

namespace NrfFeather

open Effects Transition JsonText

/-! ## The JSON text -/

/-- The calls that build the JSON text, with their answers. -/
def jsonTrace (data : DeviceData) (obj : Option Nat) (added : Bool) (msg : Option Msg) :
    List (Event NetCall.Ans) :=
  [⟨.cJSONCreateObject, obj⟩, ⟨.cJSONAddBoolToObject obj "do_something" data.doSomething, added⟩,
    ⟨.cJSONPrintUnformatted obj, msg⟩, ⟨.cJSONDelete obj, ()⟩]

/-- The object that is printed. -/
def encoded (data : DeviceData) (added : Bool) : Json :=
  .obj (if added then [("do_something", .bool data.doSomething)] else [])

/-- The object is gone when the text is there. -/
theorem after_jsonTrace {data : DeviceData} {s : NetState} {obj : Option Nat} {added : Bool}
    {msg : Option Msg} (hobj : s.allows .cJSONCreateObject obj)
    (hadded : (s.next .cJSONCreateObject obj).allows
      (.cJSONAddBoolToObject obj "do_something" data.doSomething) added) :
    NetState.env.after s (jsonTrace data obj added msg) = s := by
  cases obj with
  | none =>
    cases added with
    | false => rfl
    | true =>
      obtain ⟨p, ms, hp, -⟩ := hadded rfl
      nomatch hp
  | some p =>
    have hfree : s.setObj p none = s := NetState.setObj_eq_self (hobj p rfl)
    cases added with
    | false => exact (NetState.setObj_setObj p _ _).trans hfree
    | true =>
      exact ((NetState.setObj_setObj p _ _).trans (NetState.setObj_setObj p _ _)).trans hfree

/-- A text that is printed is that of an object that was created. -/
theorem text_of_jsonTrace {data : DeviceData} {s : NetState} {obj : Option Nat} {added : Bool}
    {msg : Msg}
    (hmsg : ((s.next .cJSONCreateObject obj).next
      (.cJSONAddBoolToObject obj "do_something" data.doSomething) added).allows
      (.cJSONPrintUnformatted obj) (some msg)) :
    obj.isSome ∧ msg.text = (encoded data added).render := by
  obtain ⟨p, ms, rfl, hms, htext⟩ := hmsg msg rfl
  have hobj : ms = if added then [("do_something", .bool data.doSomething)] else [] := by
    cases added with
    | false => simpa [NetState.next] using hms.symm
    | true => simpa [NetState.next] using hms.symm
  exact ⟨rfl, by rw [htext, hobj, encoded]⟩

/-- Building the text leaves the world as it was. -/
theorem wp_json {α : Type} (data : DeviceData) {k : Option Msg → Prog NetCall.Ans α}
    {Q : List (Event NetCall.Ans) → α → NetState → Prop} {s : NetState}
    (h : ∀ obj added msg, NetState.env.after s (jsonTrace data obj added msg) = s →
      (∀ m, msg = some m → obj.isSome ∧ m.text = (encoded data added).render) →
      wp NetState.env (k msg) (fun t => Q (jsonTrace data obj added msg ++ t)) s) :
    wp NetState.env
      (do
        let obj ← cJSONCreateObject
        let _ ← cJSONAddBoolToObject obj "do_something" data.doSomething
        let msg ← cJSONPrintUnformatted obj
        cJSONDelete obj
        k msg) Q s := by
  simp only [cJSONCreateObject, cJSONAddBoolToObject, cJSONPrintUnformatted, cJSONDelete,
    Prog.perform_bind, wp_call]
  intro obj hobj added hadded msg hmsg _ _
  have hjson : NetState.env.after s (jsonTrace data obj added msg) = s :=
    after_jsonTrace hobj hadded
  have hrest := h obj added msg hjson
    (by rintro m rfl; exact text_of_jsonTrace hmsg)
  rw [← hjson] at hrest
  exact hrest

/-! ## A publish -/

/-- The calls that send the text on a socket, with their answers. -/
def requestTrace (cfg : CloudConfig) (msg : Msg) (fd r c : Int) : List (Event NetCall.Ans) :=
  [⟨.httpClientReq fd (publishRequest cfg msg) timeout, r⟩, ⟨.close fd, c⟩, ⟨.cJSONFree msg, ()⟩]

/-- What a run of `cloud_publish` can be: it ends without a text, without a socket, or with a
request. -/
inductive PublishPost (cfg : CloudConfig) (data : DeviceData) (s : NetState) :
    List (Event NetCall.Ans) → Int → NetState → Prop
  | unprinted {obj : Option Nat} {added : Bool}
      (hjson : NetState.env.after s (jsonTrace data obj added none) = s) :
      PublishPost cfg data s (jsonTrace data obj added none) (-ENOMEM) s
  | unconnected {obj : Option Nat} {added : Bool} {msg : Msg} {t : List (Event NetCall.Ans)}
      {fd : Int} (hjson : NetState.env.after s (jsonTrace data obj added (some msg)) = s)
      (hsetup : SetupPost cfg s t fd s) (hfd : fd < 0) :
      PublishPost cfg data s (jsonTrace data obj added (some msg) ++ (t ++ [⟨.kFree msg, ()⟩])) 0 s
  | requested {obj : Option Nat} {added : Bool} {msg : Msg} {t : List (Event NetCall.Ans)}
      {fd r c : Int} (hjson : NetState.env.after s (jsonTrace data obj added (some msg)) = s)
      (hobj : obj.isSome) (htext : msg.text = (encoded data added).render)
      (hsetup : SetupPost cfg s t fd (s.setSock fd (some (readySock cfg)))) (hfd : 0 ≤ fd)
      (hafter : NetState.env.after s t = s.setSock fd (some (readySock cfg))) :
      PublishPost cfg data s
        (jsonTrace data obj added (some msg) ++ (t ++ requestTrace cfg msg fd r c)) 0 s

/-- A publish ends in one of the ways of `PublishPost`. -/
theorem wp_cloudPublish (cfg : CloudConfig) (data : DeviceData) (s : NetState) :
    wp NetState.env (cloudPublish cfg data) (PublishPost cfg data s) s := by
  refine wp_json data ?_
  intro obj added msg hjson htext
  cases msg with
  | none =>
    simp only [Prog.pure_eq, wp_ret, List.append_nil]
    exact .unprinted hjson
  | some msg =>
    obtain ⟨hobj, htext⟩ := htext msg rfl
    simp only [wp_bind]
    refine wp_mono ?_ (wp_after (wp_socketSetup cfg s))
    rintro t fd s₁ ⟨hafter, hsetup⟩
    by_cases hfd : fd < 0
    · simp only [hfd, if_true, kFree, Prog.perform_bind, wp_call, Prog.pure_eq, wp_ret]
      intro _ _
      obtain ⟨hrc, -⟩ | ⟨-, -, rfl⟩ := hsetup.world
      · omega
      · exact .unconnected hjson hsetup hfd
    · simp only [hfd, if_false, httpClientReq, close, cJSONFree, Prog.perform_bind, wp_call,
        Prog.pure_eq, wp_ret]
      intro r _ c _ _ _
      obtain ⟨hrc, -, -, hclosed, rfl⟩ | ⟨hrc, -⟩ := hsetup.world
      · have hback : (s.setSock fd (some (readySock cfg))).setSock fd none = s := by
          rw [NetState.setSock_setSock, NetState.setSock_eq_self hclosed]
        refine Eq.subst (motive := PublishPost cfg data s _ 0) hback.symm ?_
        exact .requested hjson hobj htext hsetup hrc hafter
      · exact absurd hrc hfd

/-! ## Any number of publishes -/

/-- A call of `cloud_publish`, as it was run. -/
structure Publish where
  data : DeviceData
  trace : List (Event NetCall.Ans)
  rc : Int

def PubStep (cfg : CloudConfig) (s : NetState) (l : Publish) (s' : NetState) : Prop :=
  Exec NetState.env s (cloudPublish cfg l.data) l.trace l.rc s'

/-- The two are values of one option. -/
def SockOpt.sameName : SockOpt → SockOpt → Bool
  | .soRcvtimeo _, .soRcvtimeo _ | .soSndtimeo _, .soSndtimeo _
  | .tlsPeerVerify _, .tlsPeerVerify _ | .tlsSecTagList _, .tlsSecTagList _
  | .tlsCiphersuiteList _, .tlsCiphersuiteList _ | .tlsHostname _, .tlsHostname _
  | .tlsSessionCache _, .tlsSessionCache _ => true
  | _, _ => false

/-- Of the values of this option that were accepted, it is the last. -/
def InForce (opts : List SockOpt) (opt : SockOpt) : Prop :=
  (opts.filter opt.sameName).getLast? = some opt

/-- The descriptor is open and connected, and when it was, all options were in force. -/
def Secured (cfg : CloudConfig) (s : NetState) (fd : Int) : Prop :=
  ∃ k opts, s.socks fd = some k ∧ k.connectedWith = some opts ∧
    ∀ opt ∈ requiredOpts cfg, InForce opts opt

/-- Set once each, all required options are in force. -/
theorem inForce_requiredOpts (cfg : CloudConfig) :
    ∀ opt ∈ requiredOpts cfg, InForce (requiredOpts cfg) opt := by
  simp [requiredOpts, tlsOpts, InForce, SockOpt.sameName]

/-- If the call is a request, it is made on a secured descriptor. -/
def SecuredReq (cfg : CloudConfig) (s : NetState) : Event NetCall.Ans → Prop
  | ⟨.httpClientReq fd _ _, _⟩ => Secured cfg s fd
  | _ => True

/-- A descriptor that was set up and connected is secured. -/
theorem secured_setSock (cfg : CloudConfig) (s : NetState) (fd : Int) :
    Secured cfg (s.setSock fd (some (readySock cfg))) fd :=
  ⟨readySock cfg, requiredOpts cfg, NetState.setSock_socks_self fd _, rfl,
    inForce_requiredOpts cfg⟩

/-- `socket_setup` returns secured descriptors only. -/
theorem socketSetup_secured {cfg : CloudConfig} {s s' : NetState} {t : List (Event NetCall.Ans)}
    {fd : Int} (h : Exec NetState.env s (socketSetup cfg) t fd s') (hfd : 0 ≤ fd) :
    Secured cfg s' fd := by
  obtain ⟨-, -, -, -, rfl⟩ | ⟨hneg, -⟩ := (h.of_wp (wp_socketSetup cfg s)).world
  · exact secured_setSock cfg s fd
  · omega

/-- The socket layer makes no request. -/
theorem allCalls_of_layer (cfg : CloudConfig) (s : NetState) {t : List (Event NetCall.Ans)}
    (h : ∀ e ∈ t, e.1.SocketLayer) : NetState.env.AllCalls (SecuredReq cfg) s t := by
  induction t generalizing s with
  | nil => trivial
  | cons e t ih =>
    obtain ⟨c, r⟩ := e
    rw [List.forall_mem_cons] at h
    refine ⟨?_, ih _ h.2⟩
    cases c with
    | httpClientReq fd req timeout => exact h.1.elim
    | _ => trivial

/-- The request of a publish is made on a secured descriptor. -/
theorem PublishPost.secured {cfg : CloudConfig} {data : DeviceData} {s s' : NetState}
    {t : List (Event NetCall.Ans)} {rc : Int} (h : PublishPost cfg data s t rc s') :
    NetState.env.AllCalls (SecuredReq cfg) s t := by
  cases h with
  | unprinted => exact ⟨trivial, trivial, trivial, trivial, trivial⟩
  | unconnected hjson hsetup =>
    simp only [Env.allCalls_append, hjson]
    exact ⟨⟨trivial, trivial, trivial, trivial, trivial⟩, allCalls_of_layer cfg s hsetup.layer,
      trivial, trivial⟩
  | @requested _ _ _ _ fd _ _ hjson _ _ hsetup _ hafter =>
    simp only [Env.allCalls_append, hjson, hafter]
    exact ⟨⟨trivial, trivial, trivial, trivial, trivial⟩, allCalls_of_layer cfg s hsetup.layer,
      secured_setSock cfg s fd, trivial, trivial, trivial⟩

/-- A publish closes what it opened, frees what it obtained, and leaves the world as it was. -/
theorem PublishPost.balanced {cfg : CloudConfig} {data : DeviceData} {s s' : NetState}
    {t : List (Event NetCall.Ans)} {rc : Int} (h : PublishPost cfg data s t rc s') :
    t.filterMap closesFd = t.filterMap opensFd ∧ t.filterMap freesList = t.filterMap obtainsList ∧
      s' = s := by
  cases h with
  | unprinted => exact ⟨rfl, rfl, rfl⟩
  | unconnected _ hsetup hfd =>
    obtain ⟨hrc, -⟩ | ⟨-, hclose, -⟩ := hsetup.world
    · omega
    · refine ⟨?_, ?_, rfl⟩
      · simp [jsonTrace, List.filterMap_cons, opensFd, closesFd, hclose]
      · simp [jsonTrace, List.filterMap_cons, obtainsList, freesList, hsetup.lists]
  | requested _ _ _ hsetup hfd =>
    obtain ⟨-, hopen, hclose, -⟩ | ⟨hrc, -⟩ := hsetup.world
    · refine ⟨?_, ?_, rfl⟩
      · simp [jsonTrace, requestTrace, List.filterMap_cons, opensFd, closesFd, hclose, hopen]
      · simp [jsonTrace, requestTrace, List.filterMap_cons, obtainsList, freesList, hsetup.lists]
    · omega

/-! ## Two runs -/

/-- The options of the sample's `prj.conf`, with the defaults of its `Kconfig`. -/
def sampleCloud : CloudConfig := ⟨42, "yourhostname.com", 443, "/api/v1/yourpath"⟩

/-- A world in which nothing is open or held. -/
def NetState.empty : NetState := ⟨fun _ => none, fun _ => false, fun _ => none⟩

/-- Answers with which everything succeeds, but the connection may be refused. -/
def answers (data : DeviceData) (connected : Bool) : (c : NetCall) → c.Ans
  | .cJSONCreateObject => some 1
  | .cJSONAddBoolToObject _ _ _ => true
  | .cJSONPrintUnformatted _ => some ⟨2, (encoded data true).render⟩
  | .cJSONDelete _ | .cJSONFree _ | .kFree _ | .freeaddrinfo _ => ()
  | .getaddrinfo _ _ _ => (0, ⟨3, AF_INET, ⟨0x01020304, 0⟩⟩)
  | .socket _ _ _ | .close _ => 0
  | .setsockopt _ _ => (0, 0)
  | .connect _ _ => if connected then (0, 0) else (-1, 111)
  | .httpClientReq _ _ _ => 57

/-- The publish that is so answered. -/
def answered (data : DeviceData) (connected : Bool) : Publish :=
  let run := runWith NetState.env (answers data connected) .empty (cloudPublish sampleCloud data)
  ⟨data, run.1, run.2.1⟩

/-- The answers are those of a network that is as expected. -/
theorem answers_allowed (data : DeviceData) (connected : Bool) :
    NetState.env.AllCalls (fun s e => s.allows e.1 e.2) .empty (answered data connected).trace := by
  cases connected
  all_goals
    simp [cloudPublish, cJSONCreateObject, cJSONAddBoolToObject, cJSONPrintUnformatted,
      cJSONDelete, socketSetup, getaddrinfo, socket, socketConnect, setsockopt, tlsSetup, connect,
      cleanUp, freeaddrinfo, kFree, close, httpClientReq, cJSONFree, answered, answers,
      NetState.env, NetState.allows, NetState.next, NetState.empty, encoded, NetState.setSock,
      NetState.setObj, NetState.setList]

/-- So the publish can be made, and leaves nothing behind. -/
theorem answered_step (data : DeviceData) (connected : Bool) :
    PubStep sampleCloud .empty (answered data connected) .empty := by
  have hrun := runWith_exec_of _ _ (answers_allowed data connected)
  have hworld := (hrun.of_wp (wp_cloudPublish sampleCloud data .empty)).balanced.2.2
  rw [hworld] at hrun
  exact hrun

/-- No call fails if the connection is made. -/
theorem answers_ok (data : DeviceData) (c : NetCall) : c.Ok (answers data true c) := by
  cases c with
  | _ => simp [NetCall.Ok, answers]

/-- The connection is refused after the options are set; the socket is closed again. -/
theorem answered_refused_trace (data : DeviceData) :
    (answered data false).trace =
      jsonTrace data (some 1) true (some ⟨2, (encoded data true).render⟩) ++
        (⟨.getaddrinfo "yourhostname.com" AF_INET SOCK_STREAM,
            (0, ⟨3, AF_INET, ⟨0x01020304, 0⟩⟩)⟩ ::
          ⟨.socket AF_INET SOCK_STREAM IPPROTO_TLS_1_2, (0 : Int)⟩ ::
          ((requiredOpts sampleCloud).map fun opt =>
            ⟨.setsockopt 0 opt, ((0, 0) : Int × Int)⟩) ++
          [⟨.connect 0 ⟨0x01020304, 443⟩, ((-1, 111) : Int × Int)⟩,
            ⟨.freeaddrinfo ⟨3, AF_INET, ⟨0x01020304, 443⟩⟩, ()⟩, ⟨.close 0, (0 : Int)⟩,
            ⟨.kFree ⟨2, (encoded data true).render⟩, ()⟩]) := rfl

/-! ## Safety -/

/-- For every outcome of every call, in every run of publishes: a descriptor that `socket_setup`
returns is secured, requests are made on secured descriptors only, and each publish closes what it
opened and frees what it obtained, once, and closes nothing else. -/
theorem publishes_safe (cfg : CloudConfig) {s s' : NetState} {ls : List Publish}
    (h : Run (PubStep cfg) s ls s') :
    (∀ s₀ t fd s₁, Exec NetState.env s₀ (socketSetup cfg) t fd s₁ → 0 ≤ fd → Secured cfg s₁ fd) ∧
      NetState.env.AllCalls (SecuredReq cfg) s (ls.flatMap Publish.trace) ∧
      (∀ l ∈ ls, l.trace.filterMap closesFd = l.trace.filterMap opensFd ∧
        l.trace.filterMap freesList = l.trace.filterMap obtainsList) ∧
      s' = s := by
  refine ⟨fun _ _ _ _ => socketSetup_secured, ?_⟩
  induction h with
  | nil s => exact ⟨trivial, nofun, rfl⟩
  | cons hl _ ih =>
    obtain ⟨hreq, hbal, rfl⟩ := ih
    have hpost := hl.of_wp (wp_cloudPublish cfg _ _)
    obtain ⟨hclose, hfree, hs⟩ := hpost.balanced
    refine ⟨?_, List.forall_mem_cons.2 ⟨⟨hclose, hfree⟩, hbal⟩, hs⟩
    rw [List.flatMap_cons, Env.allCalls_append, hl.after_eq]
    exact ⟨hpost.secured, hreq⟩

/-- A refused publish and one that goes through. -/
theorem publishes_safe_refused :
    let ls := [answered ⟨true⟩ false, answered ⟨true⟩ true]
    NetState.env.AllCalls (SecuredReq sampleCloud) .empty (ls.flatMap Publish.trace) ∧
      ∀ l ∈ ls, l.trace.filterMap closesFd = l.trace.filterMap opensFd ∧
        l.trace.filterMap freesList = l.trace.filterMap obtainsList :=
  have h := publishes_safe sampleCloud
    (.cons (answered_step ⟨true⟩ false) (.cons (answered_step ⟨true⟩ true) (.nil _)))
  ⟨h.2.1, h.2.2.1⟩

end NrfFeather
