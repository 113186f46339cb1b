import NrfFeather.Https.Publish

/-!
# The result of a publish

`cloud.h` documents that `cloud_publish` returns 0 if it was successful and a negative errno
otherwise, and the loop in `main.c` takes a result below 0 for a publish that was lost. When
`socket_setup` fails, `cloud_publish` returns a 0 that was never assigned; when `http_client_req`
fails, or the member could not be added to the object, it returns 0 as well.
-/

namespace NrfFeather

open Effects JsonText

/-- The payload is an object whose `do_something` is `v`. -/
def HttpRequest.Carries (req : HttpRequest) (v : Bool) : Prop :=
  ∃ ms, JsonText.read (req.payload.text.take req.payloadLen) = some (.obj ms) ∧
    ms.lookup "do_something" = some (.bool v)

/-- A POST that carries the caller's value was made on a connected socket, with a result that is
not negative. -/
def Posted (data : DeviceData) (s : NetState) (t : List (Event NetCall.Ans)) : Prop :=
  ∃ t₁ fd req ms r t₂, t = t₁ ++ ⟨.httpClientReq fd req ms, r⟩ :: t₂ ∧ 0 ≤ r ∧
    req.method = .post ∧ req.Carries data.doSomething ∧
    ∃ k, (NetState.env.after s t₁).socks fd = some k ∧ k.connectedWith.isSome

/-- The documented result: 0 for a publish that was posted, and a negative code for any other. -/
def Reported (data : DeviceData) (s : NetState) (t : List (Event NetCall.Ans)) (rc : Int) : Prop :=
  (rc = 0 ↔ Posted data s t) ∧ (¬Posted data s t → rc < 0)

/-- `cJSON_PrintUnformatted` returned `NULL`. -/
def Unprinted (t : List (Event NetCall.Ans)) : Prop := ∃ obj, ⟨.cJSONPrintUnformatted obj, none⟩ ∈ t

/-- A request carries the data exactly when the member could be added. -/
theorem carries_iff (cfg : CloudConfig) {data : DeviceData} {added : Bool} {msg : Msg}
    (htext : msg.text = (encoded data added).render) :
    (publishRequest cfg msg).Carries data.doSomething ↔ added = true := by
  have hread : JsonText.read (msg.text.take msg.text.length) = some (encoded data added) := by
    rw [List.take_length, htext, Json.read_render]
  constructor
  · rintro ⟨ms, hms, hlookup⟩
    have hms := hread.symm.trans hms
    cases added with
    | false =>
      cases hms
      nomatch hlookup
    | true => rfl
  · rintro rfl
    exact ⟨_, hread, by simp⟩

/-- What was posted is among the calls. -/
theorem Posted.mem {data : DeviceData} {s : NetState} {t : List (Event NetCall.Ans)}
    (h : Posted data s t) : ∃ fd req ms r, ⟨.httpClientReq fd req ms, r⟩ ∈ t ∧ 0 ≤ r ∧
      req.Carries data.doSomething := by
  obtain ⟨t₁, fd, req, ms, r, t₂, rfl, hr, -, hcarries, -⟩ := h
  exact ⟨fd, req, ms, r, by simp, hr, hcarries⟩

/-- Without a request nothing is posted. -/
theorem not_posted {data : DeviceData} {s : NetState} {t : List (Event NetCall.Ans)}
    (h : ∀ fd req ms r, (⟨.httpClientReq fd req ms, r⟩ : Event NetCall.Ans) ∉ t) :
    ¬Posted data s t := by
  intro hposted
  obtain ⟨fd, req, ms, r, hmem, -⟩ := hposted.mem
  exact h fd req ms r hmem

/-- A request is made neither while the text is built nor while the socket is set up. -/
theorem request_mem_tail {data : DeviceData} {obj : Option Nat} {added : Bool} {msg : Msg}
    {t u : List (Event NetCall.Ans)} {fd : Int} {req : HttpRequest} {ms r : Int}
    (hlayer : ∀ e ∈ t, e.1.SocketLayer)
    (hmem : ⟨.httpClientReq fd req ms, r⟩ ∈ jsonTrace data obj added (some msg) ++ (t ++ u)) :
    ⟨.httpClientReq fd req ms, r⟩ ∈ u := by
  simp only [List.mem_append] at hmem
  rcases hmem with hmem | hmem | hmem
  · simp [jsonTrace] at hmem
  · exact (hlayer _ hmem).elim
  · exact hmem

/-- The request of a publish is its only one. -/
theorem posted_iff {cfg : CloudConfig} {data : DeviceData} {s : NetState} {obj : Option Nat}
    {added : Bool} {msg : Msg} {t : List (Event NetCall.Ans)} {fd r c : Int}
    (hjson : NetState.env.after s (jsonTrace data obj added (some msg)) = s)
    (htext : msg.text = (encoded data added).render) (hlayer : ∀ e ∈ t, e.1.SocketLayer)
    (hafter : NetState.env.after s t = s.setSock fd (some (readySock cfg))) :
    Posted data s (jsonTrace data obj added (some msg) ++ (t ++ requestTrace cfg msg fd r c)) ↔
      added = true ∧ 0 ≤ r := by
  constructor
  · intro h
    obtain ⟨fd', req, ms, r', hmem, hr, hcarries⟩ := h.mem
    rcases List.mem_cons.1 (request_mem_tail hlayer hmem) with heq | hmem
    · cases heq
      exact ⟨(carries_iff cfg htext).1 hcarries, hr⟩
    · simp at hmem
  · rintro ⟨hadded, hr⟩
    refine ⟨jsonTrace data obj added (some msg) ++ t, fd, publishRequest cfg msg, timeout, r,
      [⟨.close fd, c⟩, ⟨.cJSONFree msg, ()⟩], ?_, hr, rfl, (carries_iff cfg htext).2 hadded,
      readySock cfg, ?_, rfl⟩
    · rw [List.append_assoc]
      rfl
    · rw [Env.after_append, hjson, hafter, NetState.setSock_socks_self]

/-- Once there is a text, no later call prints. -/
theorem not_unprinted {data : DeviceData} {obj : Option Nat} {added : Bool} {msg : Msg}
    {t u : List (Event NetCall.Ans)} (hlayer : ∀ e ∈ t, e.1.SocketLayer)
    (hu : ∀ obj, (⟨.cJSONPrintUnformatted obj, none⟩ : Event NetCall.Ans) ∉ u) :
    ¬Unprinted (jsonTrace data obj added (some msg) ++ (t ++ u)) := by
  rintro ⟨obj', hmem⟩
  simp only [List.mem_append] at hmem
  rcases hmem with hmem | hmem | hmem
  · simp [jsonTrace] at hmem
  · exact hlayer _ hmem
  · exact hu obj' hmem

/-- The documented result is returned exactly when there was no text to send, or no call failed. -/
theorem reported_iff (cfg : CloudConfig) {data : DeviceData} {s s' : NetState}
    {t : List (Event NetCall.Ans)} {rc : Int}
    (h : Exec NetState.env s (cloudPublish cfg data) t rc s') :
    Reported data s t rc ↔ Unprinted t ∨ AllOk t := by
  cases h.of_wp (wp_cloudPublish cfg data s) with
  | @unprinted obj added _ =>
    have hno : ¬Posted data s (jsonTrace data obj added none) := not_posted (by simp [jsonTrace])
    refine iff_of_true ⟨iff_of_false (by decide) hno, fun _ => by decide⟩ ?_
    exact .inl ⟨obj, by simp [jsonTrace]⟩
  | @unconnected obj added msg t fd hjson hsetup hfd =>
    -- the code of `socket_setup` is lost: 0 is returned although nothing was posted
    have hno : ¬Posted data s
        (jsonTrace data obj added (some msg) ++ (t ++ [⟨.kFree msg, ()⟩])) := by
      refine not_posted ?_
      intro fd req ms r hmem
      have htail := request_mem_tail hsetup.layer hmem
      simp at htail
    refine iff_of_false (fun hrep => hno (hrep.1.1 rfl)) ?_
    rintro (hnull | hall)
    · exact not_unprinted hsetup.layer (by simp) hnull
    · have hok := hsetup.ok.2 (allOk_append.1 (allOk_append.1 hall).2).1
      omega
  | @requested obj added msg t fd r c hjson hobj htext hsetup hfd hafter =>
    have hposted := posted_iff (r := r) (c := c) hjson htext hsetup.layer hafter
    have hall : AllOk (jsonTrace data obj added (some msg) ++
        (t ++ requestTrace cfg msg fd r c)) ↔ added = true ∧ 0 ≤ r := by
      rw [allOk_append, allOk_append, ← hsetup.ok]
      simp [AllOk, jsonTrace, requestTrace, NetCall.Ok, hobj, hfd]
    rw [hall, ← hposted]
    constructor
    · exact fun hrep => .inr (hrep.1.1 rfl)
    · rintro (hnull | hp)
      · exact absurd hnull (not_unprinted hsetup.layer (by simp [requestTrace]))
      · exact ⟨iff_of_true rfl hp, fun hno => absurd hp hno⟩

/-- A publish in which nothing fails. -/
theorem reported_iff_sent :
    Reported ⟨true⟩ .empty (answered ⟨true⟩ true).trace (answered ⟨true⟩ true).rc := by
  have hok : AllOk (answered ⟨true⟩ true).trace := runWith_forall (answers_ok ⟨true⟩) _ _
  exact (reported_iff sampleCloud (answered_step ⟨true⟩ true)).2 (.inr hok)

/-- The connection is refused, nothing is posted, and 0 is returned. -/
theorem refused_unreported :
    PubStep sampleCloud .empty (answered ⟨true⟩ false) .empty ∧
      (answered ⟨true⟩ false).rc = 0 ∧
      ¬Posted ⟨true⟩ .empty (answered ⟨true⟩ false).trace ∧
      ¬Reported ⟨true⟩ .empty (answered ⟨true⟩ false).trace (answered ⟨true⟩ false).rc := by
  have hno : ¬Posted ⟨true⟩ .empty (answered ⟨true⟩ false).trace := by
    refine not_posted ?_
    rw [answered_refused_trace]
    simp [jsonTrace]
  have hrc : (answered ⟨true⟩ false).rc = 0 := rfl
  exact ⟨answered_step ⟨true⟩ false, hrc, hno, fun hrep => hno (hrep.1.1 hrc)⟩

end NrfFeather
