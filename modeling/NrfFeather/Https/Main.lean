import NrfFeather.Https.Provision
import NrfFeather.Https.Publish
import NrfFeather.Lib.Views
import NrfFeather.Lib.Woken

/-!
# The HTTPS sample

`main` of `samples/https/src/main.c` brings up the modem, provisions the certificate, connects and
starts a timer; from then on it waits for `thread_sem` and publishes. The timer's handler gives the
semaphore, whose limit is 1, at any time, also while a publish is in progress. While a request is
in progress, the HTTP client hands what it receives to `response_cb`.

The publish and the provisioning are the functions of `cloud.c`, placed among the calls of `main`,
so that what was proved of each by itself holds whenever it is reached from here.
-/

namespace NrfFeather

open Effects Transition Signal

/-! ## Calls and the world -/

inductive HttpsCall where
  | nrfModemLibInit
  | lteLcPsmReq (enable : Bool)
  | lteLcConnect
  | kTimerStart (duration period : Nat)
  | key (c : KeyCall)
  | net (c : NetCall)

@[reducible] def HttpsCall.Ans : HttpsCall → Type
  | .nrfModemLibInit | .lteLcPsmReq _ | .lteLcConnect => Int
  | .kTimerStart _ _ => Unit
  | .key c => c.Ans
  | .net c => c.Ans

/-- The modem, the timer, the credentials and the network. -/
structure HttpsWorld where
  modemInit : Bool
  lteConnected : Bool
  timer : Bool
  keys : KeyStore
  net : NetState

namespace HttpsWorld

/-- What is known of the answers of the key management and of the network; all other calls may
succeed or fail. -/
def allows (w : HttpsWorld) : (c : HttpsCall) → c.Ans → Prop
  | .key c, r => KeyStore.allows w.keys c r
  | .net c, r => w.net.allows c r
  | _, _ => True

def next (w : HttpsWorld) : (c : HttpsCall) → c.Ans → HttpsWorld
  | .nrfModemLibInit, r => { w with modemInit := decide (0 ≤ r) }
  | .lteLcPsmReq _, _ => w
  | .lteLcConnect, r => { w with lteConnected := decide (0 ≤ r) }
  | .kTimerStart _ _, _ => { w with timer := true }
  | .key c, r => { w with keys := KeyStore.next w.keys c r }
  | .net c, r => { w with net := w.net.next c r }

def env : Env HttpsCall.Ans HttpsWorld := ⟨allows, next⟩

/-- After a reset only the credentials are there, and whatever the network layer holds. -/
def boot (keys : KeyStore) (net : NetState) : HttpsWorld := ⟨false, false, false, keys, net⟩

end HttpsWorld

/-- The calls of `cert_provision`. -/
def keyCalls : Embedding KeyCall.Ans HttpsCall.Ans := ⟨.key, fun _ => Equiv.refl _⟩

/-- The calls of `cloud_publish`. -/
def netCalls : Embedding NetCall.Ans HttpsCall.Ans := ⟨.net, fun _ => Equiv.refl _⟩

/-- The provisioning sees only the credentials. -/
theorem keyView : View HttpsWorld.env KeyStore.env keyCalls HttpsWorld.keys :=
  ⟨fun _ _ _ hr => hr, fun _ _ _ => rfl⟩

/-- A publish sees only the network. -/
theorem netView : View HttpsWorld.env NetState.env netCalls HttpsWorld.net :=
  ⟨fun _ _ _ hr => hr, fun _ _ _ => rfl⟩

/-! ## The sample -/

/-- What may be registered with `cloud_init`; the sample registers `cloud_cb`, which only logs. -/
inductive CloudCallback where
  | cloudCb
  deriving DecidableEq

/-- `struct http_response`, as far as `response_cb` tests it. -/
structure HttpResponse where
  httpStatusCode : Nat
  bodyFound : Bool

/-- `enum http_final_call`. -/
inductive HttpFinalCall where
  | more
  | final
  deriving DecidableEq

/-- The call of the registered function that `response_cb` makes. -/
def responseCb {γ : Type} (cloudCallback : Option γ) (rsp : HttpResponse)
    (finalData : HttpFinalCall) : Option (γ × DeviceData) :=
  if rsp.httpStatusCode ≠ 200 ∧ rsp.httpStatusCode ≠ 201 then none
  else if finalData = .final then
    if !rsp.bodyFound then none
    else
      let data : DeviceData := { doSomething := false }
      cloudCallback.map fun callback => (callback, data)
  else none

/-- The static `data`. -/
def publishData : DeviceData := { doSomething := true }

def nrfModemLibInit : Prog HttpsCall.Ans Int := .perform HttpsCall.nrfModemLibInit

def lteLcPsmReq (enable : Bool) : Prog HttpsCall.Ans Int := .perform (HttpsCall.lteLcPsmReq enable)

def lteLcConnect : Prog HttpsCall.Ans Int := .perform HttpsCall.lteLcConnect

def kTimerStart (duration period : Nat) : Prog HttpsCall.Ans Unit :=
  .perform (HttpsCall.kTimerStart duration period)

section
variable (cfg : CloudConfig) (cert : Cert) (delay : Nat)

/-- `main` up to its loop, with `CONFIG_DEFAULT_DELAY` in minutes: the code it returns, or the
function that is registered when the loop is entered. -/
def mainSetup : Prog HttpsCall.Ans (Except Int (Option CloudCallback)) := do
  let err ← nrfModemLibInit
  if err < 0 then
    return .error err
  let (err, cloudCallback) ← (cloudInit cfg.tlsSecTag cert (some .cloudCb) none).embed keyCalls
  if err < 0 then
    return .error err
  let _ ← lteLcPsmReq true
  let err ← lteLcConnect
  if err < 0 then
    return .error err
  kTimerStart delay delay
  return .ok cloudCallback

/-- A pass of the loop; an error is only logged. -/
def mainPass : Prog HttpsCall.Ans Unit := do
  let _err ← (cloudPublish cfg publishData).embed netCalls
  return ()

end

/-- The HTTP client calls `response_cb`. -/
structure Response where
  rsp : HttpResponse
  finalData : HttpFinalCall
  called : Option (CloudCallback × DeviceData)

/-- Where the thread stands. -/
abbrev HttpsPc : Type := ThreadPc HttpsCall.Ans (Option CloudCallback) Int

/-- A response arrives while a request is in progress. -/
def Responding (pc : HttpsPc) (m : Response) : Prop :=
  ∃ x fd req tmo k, pc = .pass x (.call (.net (.httpClientReq fd req tmo)) k) ∧
    m.called = responseCb x m.rsp m.finalData

/-- The sample: the timer, once it is started, gives the semaphore. -/
def httpsThread (cfg : CloudConfig) :
    Thread HttpsCall.Ans HttpsWorld (Option CloudCallback) Int Response where
  env := HttpsWorld.env
  body _ := mainPass cfg
  armed w := w.timer = true
  moves pc w m w' := w' = w ∧ Responding pc m

abbrev HttpsState : Type := ThreadState HttpsCall.Ans HttpsWorld (Option CloudCallback) Int 1

abbrev HttpsLabel : Type := ThreadLabel HttpsCall.Ans Response

/-- `main` is entered after a reset. -/
def HttpsState.boot (cfg : CloudConfig) (cert : Cert) (delay : Nat) (keys : KeyStore)
    (net : NetState) : HttpsState :=
  ⟨.setup (mainSetup cfg cert delay), .empty, .boot keys net⟩

/-- The runs of the sample. -/
abbrev HttpsRun (cfg : CloudConfig) : HttpsState → List HttpsLabel → HttpsState → Prop :=
  Run (httpsThread cfg).Step

/-! ## What holds of the calls -/

section
variable {cfg : CloudConfig} {cert : Cert} {delay : Nat} {keys₀ : KeyStore} {net₀ : NetState}

/-- One run of `cert_provision` led to these credentials; if it returned 0 they hold the
certificate. -/
def CertTried (cfg : CloudConfig) (cert : Cert) (keys₀ keys : KeyStore) : Prop :=
  ∃ l : ProvLabel, ProvStep cfg.tlsSecTag cert keys₀ l keys ∧
    (l.rc = 0 → keys.Provisioned cfg.tlsSecTag cert)

/-- The start-up succeeded. -/
structure Online (cfg : CloudConfig) (cert : Cert) (keys₀ : KeyStore) (w : HttpsWorld) : Prop where
  modemInit : w.modemInit = true
  lteConnected : w.lteConnected = true
  timer : w.timer = true
  cert : CertTried cfg cert keys₀ w.keys

/-- If the call is a request, it is a publish of the data: the calls made before it in the pass
begin with those that built and printed the object, and what was printed is what is sent. `added` is
what `cJSON_AddBoolToObject` returned; the object is empty if it failed. -/
def PublishesData (cfg : CloudConfig) (data : DeviceData) (made : List (Event NetCall.Ans)) :
    Event NetCall.Ans → Prop
  | ⟨.httpClientReq _ req _, _⟩ =>
    ∃ obj added msg t, made = jsonTrace data obj added (some msg) ++ t ∧
      req = publishRequest cfg msg ∧ msg.text = (encoded data added).render
  | _ => True

/-- What holds of a call of `main`: one to the network is made only after the start-up, and is made
on a secured descriptor if it is a request. -/
def CallSafe (cfg : CloudConfig) (cert : Cert) (keys₀ : KeyStore) (w : HttpsWorld) :
    Event HttpsCall.Ans → Prop
  | ⟨.net c, r⟩ => Online cfg cert keys₀ w ∧ SecuredReq cfg w.net ⟨c, r⟩
  | _ => True

/-- What holds whenever the loop waits. -/
def Waiting (cfg : CloudConfig) (cert : Cert) (keys₀ : KeyStore) (net₀ : NetState)
    (x : Option CloudCallback) (w : HttpsWorld) : Prop :=
  x = some .cloudCb ∧ Online cfg cert keys₀ w ∧ w.net = net₀

/-- What holds when `main` has returned. -/
def GaveUp (net₀ : NetState) (err : Int) (w : HttpsWorld) : Prop :=
  err < 0 ∧ w.timer = false ∧ w.net = net₀

/-- Only a request has to publish anything. -/
theorem publishesData_of_ne {data : DeviceData} {made : List (Event NetCall.Ans)}
    {e : Event NetCall.Ans} (h : ∀ fd req tmo, e.1 ≠ .httpClientReq fd req tmo) :
    PublishesData cfg data made e := by
  obtain ⟨c, r⟩ := e
  cases c with
  | httpClientReq fd req tmo => exact absurd rfl (h fd req tmo)
  | _ => trivial

/-- An element of a list, in terms of another one: it is that one, or comes before or after it. -/
theorem split_cases {α : Type} {l m l' m' : List α} {a b : α}
    (h : l ++ a :: m = l' ++ b :: m') : l' = l ∧ b = a ∨ b ∈ l ∨ b ∈ m := by
  rcases List.append_eq_append_iff.1 h with ⟨k, rfl, hk⟩ | ⟨k, rfl, hk⟩
  · cases k with
    | nil =>
      cases hk
      exact .inl ⟨List.append_nil l, rfl⟩
    | cons c k =>
      cases hk
      exact .inr (.inr (List.mem_append_right k (.head m')))
  · cases k with
    | nil =>
      cases hk
      exact .inl ⟨(List.append_nil l').symm, rfl⟩
    | cons c k =>
      cases hk
      exact .inr (.inl (List.mem_append_right l' (.head k)))

/-- Building and printing the object makes no request. -/
theorem jsonTrace_no_request {data : DeviceData} {obj : Option Nat} {added : Bool}
    {msg : Option Msg} {e : Event NetCall.Ans} (he : e ∈ jsonTrace data obj added msg)
    (fd : Int) (req : HttpRequest) (tmo : Int) : e.1 ≠ .httpClientReq fd req tmo := by
  simp only [jsonTrace, List.mem_cons, List.not_mem_nil, or_false] at he
  rcases he with rfl | rfl | rfl | rfl <;> rintro ⟨⟩

/-- Nor does the socket layer. -/
theorem layer_no_request {e : Event NetCall.Ans} (h : e.1.SocketLayer) (fd : Int)
    (req : HttpRequest) (tmo : Int) : e.1 ≠ .httpClientReq fd req tmo := by
  intro he
  rw [he] at h
  exact h

/-- The request of a publish carries the caller's data. -/
theorem PublishPost.publishesData {data : DeviceData} {s s' : NetState}
    {t : List (Event NetCall.Ans)} {rc : Int} (h : PublishPost cfg data s t rc s')
    {made u : List (Event NetCall.Ans)} {e : Event NetCall.Ans} (ht : t = made ++ e :: u) :
    PublishesData cfg data made e := by
  have hmem : e ∈ t := by
    rw [ht]
    exact List.mem_append_right made (.head u)
  cases h with
  | unprinted => exact publishesData_of_ne (jsonTrace_no_request hmem)
  | unconnected _ hsetup =>
    refine publishesData_of_ne ?_
    rcases List.mem_append.1 hmem with hmem | hmem
    · exact jsonTrace_no_request hmem
    · rcases List.mem_append.1 hmem with hmem | hmem
      · exact layer_no_request (hsetup.layer e hmem)
      · rw [List.mem_singleton.1 hmem]
        rintro _ _ _ ⟨⟩
  | @requested obj added msg t fd r c _ _ htext hsetup =>
    rw [← List.append_assoc, requestTrace] at ht
    rcases split_cases ht with ⟨rfl, rfl⟩ | hbefore | hafter
    · exact ⟨obj, added, msg, t, rfl, rfl, htext⟩
    · refine publishesData_of_ne ?_
      rcases List.mem_append.1 hbefore with hmem | hmem
      · exact jsonTrace_no_request hmem
      · exact layer_no_request (hsetup.layer e hmem)
    · refine publishesData_of_ne ?_
      simp only [List.mem_cons, List.not_mem_nil, or_false] at hafter
      rcases hafter with rfl | rfl <;> rintro _ _ _ ⟨⟩

/-- A publish creates one object, with its first call. -/
theorem PublishPost.creates_once {data : DeviceData} {s s' : NetState}
    {t : List (Event NetCall.Ans)} {rc : Int} (h : PublishPost cfg data s t rc s') :
    ∀ e ∈ t.tail, e.1 ≠ .cJSONCreateObject := by
  have hjson : ∀ obj added msg, ∀ e ∈ (jsonTrace data obj added msg).tail,
      e.1 ≠ .cJSONCreateObject := by
    simp [jsonTrace]
  have hlayer {t : List (Event NetCall.Ans)} (h : ∀ e ∈ t, e.1.SocketLayer) :
      ∀ e ∈ t, e.1 ≠ .cJSONCreateObject := by
    intro e he hc
    have hl := h e he
    rw [hc] at hl
    exact hl
  cases h with
  | unprinted => exact hjson _ _ _
  | unconnected _ hsetup =>
    refine List.forall_mem_append.2 ⟨hjson _ _ _, List.forall_mem_append.2 ⟨?_, ?_⟩⟩
    · exact hlayer hsetup.layer
    · refine List.forall_mem_singleton.2 ?_
      rintro ⟨⟩
  | requested _ _ _ hsetup =>
    refine List.forall_mem_append.2 ⟨hjson _ _ _, List.forall_mem_append.2 ⟨?_, ?_⟩⟩
    · exact hlayer hsetup.layer
    · simp [requestTrace]

/-- The calls of a pass are those of a publish of the data. -/
theorem mainPass_exec_inv {t : List (Event HttpsCall.Ans)} {w w' : HttpsWorld}
    (h : Exec HttpsWorld.env w (mainPass cfg) t () w') :
    ∃ u rc, t = u.map netCalls.event ∧ PublishPost cfg publishData w.net u rc w'.net := by
  obtain ⟨t₁, rc, w₁, t₂, hpublish, hret, rfl⟩ := h.bind_inv
  cases hret
  obtain ⟨u, rfl, hu⟩ := netView.exec hpublish
  exact ⟨u, rc, List.append_nil _, hu.of_wp (wp_cloudPublish cfg publishData w.net)⟩

/-- A call to the network does not undo the start-up. -/
theorem Online.net (w : HttpsWorld) (c : NetCall) (r : c.Ans) (h : Online cfg cert keys₀ w) :
    Online cfg cert keys₀ (HttpsWorld.env.next w (netCalls.call c) r) :=
  ⟨h.modemInit, h.lteConnected, h.timer, h.cert⟩

/-- A pass makes safe calls and leaves the network as it was. -/
theorem holds_pass (x : Option CloudCallback) (w : HttpsWorld)
    (h : Waiting cfg cert keys₀ net₀ x w) :
    (httpsThread cfg).Holds (Waiting cfg cert keys₀ net₀) (GaveUp net₀) (CallSafe cfg cert keys₀)
      (.pass x (mainPass cfg)) w := by
  obtain ⟨rfl, honline, rfl⟩ := h
  show wp HttpsWorld.env _ _ _
  rw [mainPass, wp_bind]
  refine netView.wp (wp_cloudPublish cfg publishData w.net) ?_
  intro u rc w' hx hpost
  simp only [Prog.pure_eq, wp_ret, List.append_nil]
  refine ⟨netView.allCalls Online.net (fun _ _ hF hP => ⟨hF, hP⟩) honline hpost.secured, rfl, ?_,
    ?_⟩
  · have hframe : (w'.modemInit, w'.lteConnected, w'.timer, w'.keys) =
        (w.modemInit, w.lteConnected, w.timer, w.keys) :=
      hx.embed_frame (fun w => (w.modemInit, w.lteConnected, w.timer, w.keys)) fun _ _ _ => rfl
    simp only [Prod.mk.injEq] at hframe
    obtain ⟨hinit, hconnected, htimer, hkeys⟩ := hframe
    exact ⟨hinit.trans honline.modemInit, hconnected.trans honline.lteConnected,
      htimer.trans honline.timer, hkeys ▸ honline.cert⟩
  · exact hpost.balanced.2.2

/-- Nothing but the credentials is touched by `cloud_init`. -/
theorem wp_cloudInit_embed (w : HttpsWorld) :
    wp HttpsWorld.env
      ((cloudInit cfg.tlsSecTag cert (some CloudCallback.cloudCb) none).embed keyCalls)
      (fun t r w' => HttpsWorld.env.AllCalls (CallSafe cfg cert w.keys) w t ∧
        r = (0, some CloudCallback.cloudCb) ∧ CertTried cfg cert w.keys w'.keys ∧
        w' = { w with keys := w'.keys }) w := by
  have hinit : wp KeyStore.env
      (cloudInit cfg.tlsSecTag cert (some CloudCallback.cloudCb) none)
      (fun _ r keys => r = (0, some CloudCallback.cloudCb) ∧ CertTried cfg cert w.keys keys)
      w.keys := by
    refine wp_iff_exec.2 fun t r keys hx => ?_
    obtain ⟨rfl, rc, hprov⟩ := cloudInit_boot hx
    exact ⟨rfl, ⟨t, rc⟩, hprov, hprov.post.success⟩
  refine keyView.wp hinit ?_
  rintro u r w' hx ⟨rfl, hcert⟩
  have hframe : (w'.modemInit, w'.lteConnected, w'.timer, w'.net) =
      (w.modemInit, w.lteConnected, w.timer, w.net) :=
    hx.embed_frame (fun w => (w.modemInit, w.lteConnected, w.timer, w.net)) fun _ _ _ => rfl
  have hcalls : KeyStore.env.AllCalls (fun _ _ => True) w.keys u :=
    Env.allCalls_of_forall fun _ _ => trivial
  obtain ⟨minit, mconnected, mtimer, mkeys, mnet⟩ := w'
  cases hframe
  refine ⟨?_, rfl, hcert, rfl⟩
  exact keyView.allCalls (F := fun _ => True) (fun _ _ _ _ => trivial) (fun _ _ _ _ => trivial)
    trivial hcalls

/-- The start-up gives up, or the loop is entered online. -/
theorem holds_setup :
    (httpsThread cfg).Holds (Waiting cfg cert keys₀ net₀) (GaveUp net₀) (CallSafe cfg cert keys₀)
      (.setup (mainSetup cfg cert delay)) (.boot keys₀ net₀) := by
  show wp HttpsWorld.env _ _ _
  rw [mainSetup, nrfModemLibInit, Prog.perform_bind, wp_call]
  intro err _
  split
  · next herr => exact ⟨⟨trivial, trivial⟩, herr, rfl, rfl⟩
  · next herr =>
    rw [wp_bind]
    refine wp_mono ?_ (wp_after (wp_cloudInit_embed _))
    rintro t r w' ⟨hafter, hcalls, rfl, hcert, hw⟩
    have happend : ∀ u : List (Event HttpsCall.Ans),
        HttpsWorld.env.AllCalls (CallSafe cfg cert keys₀) w' u →
        HttpsWorld.env.AllCalls (CallSafe cfg cert keys₀) (.boot keys₀ net₀)
          (⟨.nrfModemLibInit, err⟩ :: (t ++ u)) := by
      intro u hu
      refine ⟨trivial, (Env.allCalls_append _ _ _ _).2 ⟨hcalls, ?_⟩⟩
      rw [hafter]
      exact hu
    simp only [lteLcPsmReq, lteLcConnect, Prog.perform_bind, wp_call, Int.lt_irrefl, if_false]
    intro psm _ conn _
    split
    · next hconn =>
      refine ⟨happend _ ⟨trivial, trivial, trivial⟩, hconn, ?_, ?_⟩
      · rw [hw]
        rfl
      · rw [hw]
        rfl
    · next hconn =>
      rw [kTimerStart, Prog.perform_bind, wp_call]
      intro _ _
      refine ⟨happend _ ⟨trivial, trivial, trivial, trivial⟩, rfl, ⟨?_, ?_, rfl, hcert⟩, ?_⟩
      · rw [hw]
        exact decide_eq_true (Int.not_lt.1 herr)
      · exact decide_eq_true (Int.not_lt.1 hconn)
      · rw [hw]
        rfl

/-- The label is a call to the network. -/
def IsNetCall : HttpsLabel → Prop
  | .call ⟨.net _, _⟩ => True
  | _ => False

/-- The start-up makes no call to the network. -/
theorem mainSetup_offline {t : List (Event HttpsCall.Ans)} {r : Except Int (Option CloudCallback)}
    {w w' : HttpsWorld} (h : Exec HttpsWorld.env w (mainSetup cfg cert delay) t r w') :
    ∀ e ∈ t, ¬ IsNetCall (.call e) := by
  have hwp : wp HttpsWorld.env (mainSetup cfg cert delay)
      (fun t _ _ => (∀ e ∈ t, ¬ IsNetCall (.call e)) ∧ True) w := by
    rw [mainSetup, nrfModemLibInit, Prog.perform_bind]
    refine wp_call_ensuring fun err _ => ⟨id, ?_⟩
    split
    · exact ⟨nofun, trivial⟩
    · refine wp_bind_ensuring (Q := fun _ _ => True) ?_ ?_
      · refine keyView.wp ((wp_iff_exec (Q := fun _ _ _ => True)).2 fun _ _ _ _ => trivial) ?_
        rintro u r w' - -
        refine ⟨?_, trivial⟩
        intro e he
        obtain ⟨e', -, rfl⟩ := List.mem_map.1 he
        exact id
      · rintro ⟨err, cloudCallback⟩ w' -
        dsimp only
        split
        · exact ⟨nofun, trivial⟩
        · simp only [lteLcPsmReq, lteLcConnect, Prog.perform_bind]
          refine wp_call_ensuring fun psm _ => ⟨id, wp_call_ensuring fun conn _ => ⟨id, ?_⟩⟩
          split
          · exact ⟨nofun, trivial⟩
          · exact wp_call_ensuring fun _ _ => ⟨id, nofun, trivial⟩
  exact (h.of_wp hwp).1

/-! ## Runs -/

/-- Every call may be answered. -/
theorem https_answers (w : HttpsWorld) (c : HttpsCall) :
    ∃ r, HttpsWorld.env.allows w c r := by
  cases c with
  | nrfModemLibInit => exact ⟨0, trivial⟩
  | lteLcPsmReq enable => exact ⟨0, trivial⟩
  | lteLcConnect => exact ⟨0, trivial⟩
  | kTimerStart duration period => exact ⟨(), trivial⟩
  | key c =>
    cases c with
    | modemKeyMgmtExists secTag type =>
      exact ⟨((1 : Int), false), fun h => absurd h Int.one_ne_zero⟩
    | modemKeyMgmtCmp secTag type buf =>
      have hne : (-1 : Int) ≠ 0 := by decide
      have hle : ¬ (0 : Int) < -1 := by decide
      exact ⟨(-1 : Int), fun h => absurd h hne, fun h => absurd h hle⟩
    | modemKeyMgmtDelete secTag type => exact ⟨(0 : Int), trivial⟩
    | modemKeyMgmtWrite secTag type buf => exact ⟨(0 : Int), trivial⟩
  | net c =>
    cases c with
    | cJSONCreateObject => exact ⟨none, nofun⟩
    | cJSONAddBoolToObject obj name value => exact ⟨false, nofun⟩
    | cJSONPrintUnformatted obj => exact ⟨none, nofun⟩
    | cJSONDelete obj => exact ⟨(), trivial⟩
    | cJSONFree msg => exact ⟨(), trivial⟩
    | kFree msg => exact ⟨(), trivial⟩
    | getaddrinfo host family type => exact ⟨(-1, ⟨0, 0, ⟨0, 0⟩⟩), .inl (by decide)⟩
    | freeaddrinfo res => exact ⟨(), trivial⟩
    | socket family type proto => exact ⟨(-1 : Int), .inl rfl⟩
    | setsockopt fd opt => exact ⟨(-1, 1), .inr ⟨by decide, by decide⟩⟩
    | connect fd addr => exact ⟨(-1, 1), .inr ⟨by decide, by decide⟩⟩
    | close fd => exact ⟨(0 : Int), trivial⟩
    | httpClientReq fd req tmo => exact ⟨(0 : Int), trivial⟩

/-- A response changes nothing in the world of `main`. -/
theorem https_moves (pc : HttpsPc) (w : HttpsWorld) (m : Response) (w' : HttpsWorld)
    (h : (httpsThread cfg).moves pc w m w') : w' = w := h.1

/-- What is known of the world at any point of a run. -/
abbrev Known (cfg : CloudConfig) (cert : Cert) (keys₀ : KeyStore) (net₀ : NetState) :
    HttpsPc → HttpsWorld → Prop :=
  (httpsThread cfg).Holds (Waiting cfg cert keys₀ net₀) (GaveUp net₀) (CallSafe cfg cert keys₀)

/-- A response leaves what is known. -/
theorem known_moves (pc : HttpsPc) (w : HttpsWorld) (m : Response) (w' : HttpsWorld)
    (h : (httpsThread cfg).moves pc w m w') (hw : Known cfg cert keys₀ net₀ pc w) :
    Known cfg cert keys₀ net₀ pc w' := by
  rw [https_moves _ _ _ _ h]
  exact hw

/-- Each step keeps what is known of the place it leads to, and makes a safe call if any. -/
theorem Known.step {s t : HttpsState} {l : HttpsLabel}
    (hs : Known cfg cert keys₀ net₀ s.pc s.world) (h : (httpsThread cfg).Step s l t) :
    Known cfg cert keys₀ net₀ t.pc t.world ∧
      ∀ e, l = .call e → CallSafe cfg cert keys₀ s.world e :=
  Thread.Holds.step https_answers holds_pass known_moves hs h

/-- So it is known in every run. -/
theorem HttpsRun.known {ls : List HttpsLabel} {s : HttpsState}
    (h : HttpsRun cfg (.boot cfg cert delay keys₀ net₀) ls s) :
    Known cfg cert keys₀ net₀ s.pc s.world :=
  Thread.Holds.run https_answers holds_pass known_moves h holds_setup

end

/-! ## A run -/

/-- The start-up with an empty tag, in which everything succeeds. -/
def startLabels : List HttpsLabel :=
  [.call ⟨.nrfModemLibInit, (0 : Int)⟩,
    .call ⟨.key (.modemKeyMgmtExists sampleCloud.tlsSecTag .caChain), ((0 : Int), false)⟩,
    .call ⟨.key (.modemKeyMgmtWrite sampleCloud.tlsSecTag .caChain dashes.written), (0 : Int)⟩,
    .call ⟨.lteLcPsmReq true, (0 : Int)⟩, .call ⟨.lteLcConnect, (0 : Int)⟩,
    .call ⟨.kTimerStart 1440 1440, ()⟩, .enter]

def noKeys : KeyStore := fun _ _ => none

/-- The credentials after that start-up. -/
def startKeys : KeyStore := noKeys.set sampleCloud.tlsSecTag .caChain (some dashes.written)

abbrev HttpsState.first : HttpsState := .boot sampleCloud dashes 1440 noKeys .empty

/-- The loop is about to be entered for the first time. -/
def HttpsState.online (count : Nat) (hcount : count ≤ 1) : HttpsState :=
  ⟨.wait (some .cloudCb), ⟨count, hcount⟩, ⟨true, true, true, startKeys, .empty⟩⟩

/-- The start-up, in which nothing fails. -/
theorem startLabels_run :
    HttpsRun sampleCloud .first startLabels (.online 1 (Nat.le_refl 1)) :=
  .cons (.setupCall rfl trivial) <| .cons (.setupCall rfl fun _ => rfl) <|
    .cons (.setupCall rfl trivial) <| .cons (.setupCall rfl trivial) <|
    .cons (.setupCall rfl trivial) <| .cons (.setupCall rfl trivial) <| .cons (.enter rfl) <|
    .nil _

/-- The first publish begins; a timeout before it is dropped. -/
theorem firstPublish_run :
    HttpsRun sampleCloud .first (startLabels ++ [.wake, .take])
      ⟨.pass (some .cloudCb) (mainPass sampleCloud), .empty,
        ⟨true, true, true, startKeys, .empty⟩⟩ :=
  startLabels_run.append <| .cons (.wake rfl) <| .cons (.take rfl rfl) <| .nil _

section
variable {cfg : CloudConfig} {cert : Cert} {delay : Nat} {keys₀ : KeyStore} {net₀ : NetState}

/-- `cloud_publish` makes its first call. -/
def publishBegins : Event HttpsCall.Ans → Bool
  | ⟨.net .cJSONCreateObject, _⟩ => true
  | _ => false

variable (cfg cert delay) in
/-- A pass is a publish, and nothing else makes that call. -/
theorem httpsThread_beginsWith :
    (httpsThread cfg).BeginsWith (mainSetup cfg cert delay) publishBegins := by
  refine ⟨?_, ?_, ?_⟩
  · rintro w t r w' hx ⟨c, r⟩ he
    cases c with
    | net c => exact absurd trivial (mainSetup_offline hx _ he)
    | _ => rfl
  · exact fun _ => ⟨.net .cJSONCreateObject, _, rfl, fun _ => rfl⟩
  · intro x w t a w' hx e he
    obtain ⟨u, rc, rfl, hpost⟩ := mainPass_exec_inv hx
    rw [← List.map_tail] at he
    obtain ⟨⟨c, r⟩, he', rfl⟩ := List.mem_map.1 he
    have hne := hpost.creates_once _ he'
    cases c with
    | cJSONCreateObject => exact absurd rfl hne
    | _ => rfl

/-- In every run of the sample, with timeouts between any two calls: `cloud_publish` is begun at
most once for each timeout and once for the start; and whenever the semaphore is down, and `main`
has not just taken it, each timeout has been followed by the beginning of a publish. -/
theorem timeouts_published {ls : List HttpsLabel} {s : HttpsState}
    (h : HttpsRun cfg (.boot cfg cert delay keys₀ net₀) ls s) :
    s.sem.count + ls.countP (ThreadLabel.calls publishBegins) ≤
        ls.countP ThreadLabel.wakes + 1 ∧
      (s.sem.count = 0 → ¬ (httpsThread cfg).Due s →
        Answered (fun l => l.gives = true) (fun l => l.calls publishBegins = true) ls) := by
  refine ⟨?_, fun hs hdue => ?_⟩
  · have hle := Thread.begins_le (httpsThread_beginsWith cfg cert delay) https_answers https_moves h
      rfl
    have hboot : (HttpsState.boot cfg cert delay keys₀ net₀).sem.count = 0 := rfl
    omega
  · exact Thread.answered (httpsThread_beginsWith cfg cert delay) Nat.one_pos h hs hdue

/-- The timeout before the first publish is answered by it. -/
theorem timeouts_published_first :
    Answered (fun l => l.gives = true) (fun l => l.calls publishBegins = true)
      (startLabels ++ [.wake, .take] ++ [.call ⟨.net .cJSONCreateObject, some 1⟩]) :=
  (timeouts_published (firstPublish_run.append
    (.cons (.passCall rfl fun _ _ => rfl) (.nil _)))).2 rfl fun ⟨_, h⟩ => nomatch h

/-- Once the timer is started it stays so. -/
theorem timer_stays {s t : HttpsState} {l : HttpsLabel} (h : (httpsThread cfg).Step s l t)
    (hs : s.world.timer = true) : t.world.timer = true := by
  have hnext : ∀ (c : HttpsCall) (r : c.Ans), (s.world.next c r).timer = true := by
    intro c r
    cases c with
    | kTimerStart duration period => rfl
    | _ => exact hs
  cases h with
  | setupCall | passCall => exact hnext _ _
  | move hmove =>
    obtain ⟨rfl, -⟩ := hmove
    exact hs
  | _ => exact hs

/-- A call to the network is made with the timer started. -/
theorem HttpsRun.timer {ls : List HttpsLabel} {s : HttpsState}
    (h : HttpsRun cfg (.boot cfg cert delay keys₀ net₀) ls s) {l : HttpsLabel} (hl : l ∈ ls)
    (hnet : IsNetCall l) : s.world.timer = true := by
  obtain ⟨pre, post, rfl⟩ := List.append_of_mem hl
  obtain ⟨s₁, hpre, hrest⟩ := h.append_inv
  cases hrest with
  | cons hstep hpost =>
    refine hpost.invariant (fun _ _ _ ht hl => timer_stays hl ht) (timer_stays hstep ?_)
    cases l with
    | call e =>
      obtain ⟨c, r⟩ := e
      cases c with
      | net c => exact (((HttpsRun.known hpre).step hstep).2 _ rfl).1.timer
      | _ => exact hnet.elim
    | _ => exact hnet.elim

/-- What a pass has called before a call to the network are the first calls of a publish. -/
theorem HttpsRun.publishes {ls : List HttpsLabel} {s t : HttpsState}
    (h : HttpsRun cfg (.boot cfg cert delay keys₀ net₀) ls s) {c : NetCall} {r : c.Ans}
    (hstep : (httpsThread cfg).Step s (.call ⟨.net c, r⟩) t) :
    ∃ made, recentCalls ls = made.map netCalls.event ∧
      PublishesData cfg publishData made ⟨c, r⟩ := by
  have hmid := Thread.midway_run https_moves h rfl
  rcases hmid.call https_answers hstep with ⟨u, x, w', hx⟩ | ⟨x, p, w₁, u, w', -, hx⟩
  · exact absurd trivial (mainSetup_offline hx _ (List.mem_append_right _ (.head u)))
  · obtain ⟨v, rc, hv, hpost⟩ := mainPass_exec_inv hx
    obtain ⟨made, v', rfl, hmade, hv'⟩ := List.map_eq_append_iff.1 hv.symm
    obtain ⟨e, v'', rfl, he, -⟩ := List.map_eq_cons_iff.1 hv'
    cases he
    exact ⟨made, hmade.symm, hpost.publishesData rfl⟩

/-- In every run of the sample, with any outcome of every call: the network is called only after the
modem was initialised, the certificate provisioning was run and the connection made; a request is
made on a secured descriptor and carries what the pass printed of the data; the network is as it was
at boot whenever the loop waits; and if `main` has returned, it was with an error and without a call
to the network. -/
theorem https_main_safe {ls : List HttpsLabel} {s : HttpsState}
    (h : HttpsRun cfg (.boot cfg cert delay keys₀ net₀) ls s) :
    (∀ c r t, (httpsThread cfg).Step s (.call ⟨.net c, r⟩) t →
      Online cfg cert keys₀ s.world ∧ SecuredReq cfg s.world.net ⟨c, r⟩ ∧
        ∃ made, recentCalls ls = made.map netCalls.event ∧
          PublishesData cfg publishData made ⟨c, r⟩) ∧
      (∀ x, s.pc = .wait x → s.world.net = net₀) ∧
      ∀ err, s.pc = .returned err → err < 0 ∧ s.world.net = net₀ ∧ ∀ l ∈ ls, ¬ IsNetCall l := by
  have hknown := HttpsRun.known h
  refine ⟨?_, ?_, ?_⟩
  · intro c r t hstep
    obtain ⟨honline, hsecured⟩ := (hknown.step hstep).2 _ rfl
    exact ⟨honline, hsecured, HttpsRun.publishes h hstep⟩
  · intro x hpc
    rw [hpc] at hknown
    exact hknown.2.2
  · intro err hpc
    rw [hpc] at hknown
    obtain ⟨herr, htimer, hnet⟩ := hknown
    refine ⟨herr, hnet, ?_⟩
    intro l hl hcall
    rw [HttpsRun.timer h hl hcall] at htimer
    cases htimer

/-- A response that arrives is handed on to `cloud_cb` exactly when it is the last part of one with
status 200 or 201 that has a body; and it arrives during a request on a secured descriptor. -/
theorem responses_reach_cloud_cb {ls : List HttpsLabel} {s t : HttpsState} {m : Response}
    (h : HttpsRun cfg (.boot cfg cert delay keys₀ net₀) ls s)
    (hm : (httpsThread cfg).Step s (.move m) t) :
    (m.called = if (m.rsp.httpStatusCode = 200 ∨ m.rsp.httpStatusCode = 201) ∧
        m.finalData = .final ∧ m.rsp.bodyFound = true then some (.cloudCb, ⟨false⟩) else none) ∧
      ∃ x fd req tmo k, s.pc = .pass x (.call (.net (.httpClientReq fd req tmo)) k) ∧
        Secured cfg s.world.net fd := by
  have hknown := HttpsRun.known h
  cases hm with
  | move hmove =>
    obtain ⟨-, x, fd, req, tmo, k, hpc, hcalled⟩ := hmove
    rw [hpc] at hknown
    obtain ⟨⟨-, hsecured⟩, w', hx⟩ := hknown.pass_call (r := (0 : Int)) https_answers trivial
    obtain rfl : x = some .cloudCb := hx.1
    refine ⟨?_, _, fd, req, tmo, k, hpc, hsecured⟩
    rw [hcalled, responseCb]
    by_cases hstatus : m.rsp.httpStatusCode = 200 ∨ m.rsp.httpStatusCode = 201
    · rw [if_neg (by omega)]
      cases m.finalData <;> cases m.rsp.bodyFound <;> simp [hstatus]
    · rw [if_pos (by omega), if_neg fun h => hstatus h.1]

/-- The text of the first publish. -/
def sentMsg : Msg := ⟨2, (encoded publishData true).render⟩

/-- The calls of a publish up to its request. -/
def beforeRequest : List (Event NetCall.Ans) :=
  jsonTrace publishData (some 1) true (some sentMsg) ++
    (⟨.getaddrinfo "yourhostname.com" AF_INET SOCK_STREAM,
        (0, ⟨3, AF_INET, ⟨0x01020304, 0⟩⟩)⟩ ::
      ⟨.socket AF_INET SOCK_STREAM IPPROTO_TLS_1_2, (0 : Int)⟩ ::
      ((requiredOpts sampleCloud).map fun opt => ⟨.setsockopt 0 opt, ((0, 0) : Int × Int)⟩) ++
      [⟨.connect 0 ⟨0x01020304, 443⟩, ((0, 0) : Int × Int)⟩,
        ⟨.freeaddrinfo ⟨3, AF_INET, ⟨0x01020304, 443⟩⟩, ()⟩])

/-- The whole first publish, as calls of `main`. -/
theorem firstPass_exec :
    ∃ w', Exec HttpsWorld.env ⟨true, true, true, startKeys, .empty⟩ (mainPass sampleCloud)
      (beforeRequest.map netCalls.event ++
        (requestTrace sampleCloud sentMsg 0 57 0).map netCalls.event) () w' := by
  have hpublish : Exec NetState.env .empty (cloudPublish sampleCloud publishData)
      (beforeRequest ++ requestTrace sampleCloud sentMsg 0 57 0) 0 .empty :=
    answered_step publishData true
  obtain ⟨w', hexec, -⟩ := netView.exec_embed (s := ⟨true, true, true, startKeys, .empty⟩)
    (fun _ _ _ hr => hr) hpublish
  rw [List.map_append] at hexec
  have hpass := hexec.bind (f := fun _ => Prog.ret ()) .ret
  rw [List.append_nil] at hpass
  exact ⟨w', hpass⟩

/-- The first publish up to its request. -/
theorem firstRequest_run :
    ∃ x fd req tmo k w₁, HttpsRun sampleCloud .first
        (startLabels ++ [.wake, .take] ++ (beforeRequest.map netCalls.event).map .call)
        ⟨.pass x (.call (.net (.httpClientReq fd req tmo)) k), .empty, w₁⟩ := by
  obtain ⟨w', hexec⟩ := firstPass_exec
  obtain ⟨q, w₁, hrun, hrest⟩ := Thread.run_calls (T := httpsThread sampleCloud) hexec
    (some .cloudCb) .empty
  have hrun := firstPublish_run.append hrun
  cases hrest with
  | call hr hrest => exact ⟨_, _, _, _, _, _, hrun⟩

/-- The first request is secured, and carries the data. -/
theorem https_main_safe_first :
    ∃ s fd req tmo t, HttpsRun sampleCloud .first
        (startLabels ++ [.wake, .take] ++ (beforeRequest.map netCalls.event).map .call) s ∧
      (httpsThread sampleCloud).Step s (.call ⟨.net (.httpClientReq fd req tmo), (57 : Int)⟩) t ∧
      Online sampleCloud dashes noKeys s.world ∧ Secured sampleCloud s.world.net fd ∧
      ∃ made, beforeRequest.map netCalls.event = made.map netCalls.event ∧
        PublishesData sampleCloud publishData made ⟨.httpClientReq fd req tmo, (57 : Int)⟩ := by
  obtain ⟨x, fd, req, tmo, k, w₁, hrun⟩ := firstRequest_run
  have hstep : (httpsThread sampleCloud).Step
      (⟨.pass x (.call (.net (.httpClientReq fd req tmo)) k), .empty, w₁⟩ : HttpsState)
      (.call ⟨.net (.httpClientReq fd req tmo), (57 : Int)⟩) _ := .passCall rfl trivial
  obtain ⟨honline, hsecured, hmade⟩ := (https_main_safe hrun).1 _ _ _ hstep
  exact ⟨_, fd, req, tmo, _, hrun, hstep, honline, hsecured, hmade⟩

/-- The first request gets a response with a body. -/
theorem responses_reach_cloud_cb_first :
    ∃ s, HttpsRun sampleCloud .first
        (startLabels ++ [.wake, .take] ++ (beforeRequest.map netCalls.event).map .call) s ∧
      ∃ x fd req tmo k, s.pc = .pass x (.call (.net (.httpClientReq fd req tmo)) k) ∧
        Secured sampleCloud s.world.net fd := by
  obtain ⟨x, fd, req, tmo, k, w₁, hrun⟩ := firstRequest_run
  refine ⟨_, hrun, ?_⟩
  exact (responses_reach_cloud_cb (m := ⟨⟨200, true⟩, .final, responseCb x ⟨200, true⟩ .final⟩) hrun
    (.move ⟨rfl, _, _, _, _, _, rfl, rfl⟩)).2

end

end NrfFeather
