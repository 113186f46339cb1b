import NrfFeather.Lib.Prog
import NrfFeather.Lib.Transition
import NrfFeather.Zephyr

/-!
# Certificate provisioning

`cert_provision` and `cloud_init` of `samples/https/src/cloud/cloud.c`: at every boot the sample
compares the CA certificate in the modem with the embedded one, and replaces it when they differ.
The modem's key management may fail at any call. A call that succeeds leaves the right
certificate behind; but a comparison that fails counts as a mismatch, so that a certificate that was
there can be deleted, and is gone when the write after that fails.
-/

namespace NrfFeather

open Effects Transition

/-! ## The modem's key management -/

/-- `enum modem_key_mgmt_cred_type`, as far as it is used. -/
inductive CredType where
  | caChain
  deriving DecidableEq

inductive KeyCall where
  | modemKeyMgmtExists (secTag : Nat) (type : CredType)
  | modemKeyMgmtCmp (secTag : Nat) (type : CredType) (buf : List UInt8)
  | modemKeyMgmtDelete (secTag : Nat) (type : CredType)
  | modemKeyMgmtWrite (secTag : Nat) (type : CredType) (buf : List UInt8)

/-- The code a call returns; `exists` also says whether there is a credential. -/
@[reducible] def KeyCall.Ans : KeyCall → Type
  | .modemKeyMgmtExists _ _ => Int × Bool
  | _ => Int

/-- The credentials in the modem. -/
abbrev KeyStore : Type := Nat → CredType → Option (List UInt8)

def KeyStore.set (ks : KeyStore) (secTag : Nat) (type : CredType) (v : Option (List UInt8)) :
    KeyStore :=
  fun s t => if s = secTag ∧ t = type then v else ks s t

/-- What was set is there. -/
@[simp] theorem KeyStore.set_self (ks : KeyStore) (secTag : Nat) (type : CredType)
    (v : Option (List UInt8)) : ks.set secTag type v secTag type = v :=
  if_pos ⟨rfl, rfl⟩

/-- Any call may fail. `exists` reports presence; `cmp` returns 0 only if the credential equals the
buffer, and a positive value only if it does not. -/
def KeyStore.allows (ks : KeyStore) : (c : KeyCall) → c.Ans → Prop
  | .modemKeyMgmtExists secTag type, r => r.1 = 0 → r.2 = (ks secTag type).isSome
  | .modemKeyMgmtCmp secTag type buf, r =>
    (r = 0 → ks secTag type = some buf) ∧ (0 < r → ks secTag type ≠ some buf)
  | _, _ => True

/-- A failed deletion or write leaves everything as it was. -/
def KeyStore.next (ks : KeyStore) : (c : KeyCall) → c.Ans → KeyStore
  | .modemKeyMgmtDelete secTag type, r => if r = 0 then ks.set secTag type none else ks
  | .modemKeyMgmtWrite secTag type buf, r => if r = 0 then ks.set secTag type (some buf) else ks
  | _, _ => ks

def KeyStore.env : Env KeyCall.Ans KeyStore := ⟨KeyStore.allows, KeyStore.next⟩

/-! ## The embedded certificate -/

/-- The text of the certificate, without NUL. -/
structure Cert where
  pem : List UInt8
  noNul : ∀ b ∈ pem, b ≠ 0

/-- The array `cert`: the text and its terminating NUL. -/
def Cert.array (cert : Cert) : List UInt8 := cert.pem ++ [0]

/-- The `strlen(cert)` bytes that are compared. -/
def Cert.compared (cert : Cert) : List UInt8 := cert.array.takeWhile (· ≠ 0)

/-- The `sizeof(cert) - 1` bytes that are written. -/
def Cert.written (cert : Cert) : List UInt8 := cert.array.take (cert.array.length - 1)

/-- The bytes that are compared and those that are written are the same. -/
@[simp] theorem Cert.compared_eq (cert : Cert) : cert.compared = cert.pem := by
  have hpem : ∀ b ∈ cert.pem, decide (b ≠ 0) = true :=
    fun b hb => decide_eq_true (cert.noNul b hb)
  rw [Cert.compared, Cert.array, List.takeWhile_append_of_pos hpem]
  exact List.append_nil _

/-- What is written is the certificate, as far as its NUL. -/
@[simp] theorem Cert.written_eq (cert : Cert) : cert.written = cert.pem := by
  simp [Cert.written, Cert.array]

/-! ## Provisioning -/

def modemKeyMgmtExists (secTag : Nat) (type : CredType) : Prog KeyCall.Ans (Int × Bool) :=
  .perform (KeyCall.modemKeyMgmtExists secTag type)

def modemKeyMgmtCmp (secTag : Nat) (type : CredType) (buf : List UInt8) :
    Prog KeyCall.Ans Int :=
  .perform (KeyCall.modemKeyMgmtCmp secTag type buf)

def modemKeyMgmtDelete (secTag : Nat) (type : CredType) : Prog KeyCall.Ans Int :=
  .perform (KeyCall.modemKeyMgmtDelete secTag type)

def modemKeyMgmtWrite (secTag : Nat) (type : CredType) (buf : List UInt8) :
    Prog KeyCall.Ans Int :=
  .perform (KeyCall.modemKeyMgmtWrite secTag type buf)

section
variable (secTag : Nat) (cert : Cert)

def certProvision : Prog KeyCall.Ans Int := do
  let (err, present) ← modemKeyMgmtExists secTag .caChain
  if err ≠ 0 then
    return err
  if present then
    let mismatch ← modemKeyMgmtCmp secTag .caChain cert.compared
    if mismatch = 0 then
      return 0
    -- a deletion that fails is only logged
    let _ ← modemKeyMgmtDelete secTag .caChain
  let err ← modemKeyMgmtWrite secTag .caChain cert.written
  if err ≠ 0 then
    return err
  return 0

/-- `cloud_init`, with the `cloud_callback` it sets; provisioning may fail without it failing. -/
def cloudInit {γ : Type} (callback cloudCallback : Option γ) :
    Prog KeyCall.Ans (Int × Option γ) := do
  if callback.isNone then
    return (-EINVAL, cloudCallback)
  let _ ← certProvision secTag cert
  return (0, callback)

end

/-! ## Steps -/

section
variable {secTag : Nat} {cert : Cert}

/-- A call of `cert_provision`: its calls to the modem and their outcomes, and what it returned. -/
structure ProvLabel where
  trace : List (Event KeyCall.Ans)
  rc : Int

def ProvStep (secTag : Nat) (cert : Cert) (ks : KeyStore) (l : ProvLabel) (ks' : KeyStore) :
    Prop :=
  Exec KeyStore.env ks (certProvision secTag cert) l.trace l.rc ks'

/-- The tag holds the embedded certificate. -/
def KeyStore.Provisioned (ks : KeyStore) (secTag : Nat) (cert : Cert) : Prop :=
  ks secTag .caChain = some cert.pem

def CmpFailed : Event KeyCall.Ans → Prop
  | ⟨.modemKeyMgmtCmp _ _ _, r⟩ => r < 0
  | _ => False

def Deleted : Event KeyCall.Ans → Prop
  | ⟨.modemKeyMgmtDelete _ _, r⟩ => r = 0
  | _ => False

def WriteFailed : Event KeyCall.Ans → Prop
  | ⟨.modemKeyMgmtWrite _ _ _, r⟩ => r ≠ 0
  | _ => False

/-- In a call with this trace the comparison failed, the deletion succeeded and the write failed. -/
def Loses (t : List (Event KeyCall.Ans)) : Prop :=
  (∃ e ∈ t, CmpFailed e) ∧ (∃ e ∈ t, Deleted e) ∧ ∃ e ∈ t, WriteFailed e

/-- A successful call leaves the certificate behind, and one that found it there leaves it there
unless its calls went wrong in one particular way. -/
structure ProvPost (secTag : Nat) (cert : Cert) (ks : KeyStore) (t : List (Event KeyCall.Ans))
    (rc : Int) (ks' : KeyStore) : Prop where
  success : rc = 0 → ks'.Provisioned secTag cert
  stays : ks.Provisioned secTag cert → (ks'.Provisioned secTag cert ↔ ¬ Loses t)

/-- A replacement loses the certificate when its comparison fails, its deletion succeeds and its
write fails. -/
theorem loses_replace_iff {r : Int × Bool} {m d e : Int} :
    Loses [⟨.modemKeyMgmtExists secTag .caChain, r⟩,
      ⟨.modemKeyMgmtCmp secTag .caChain cert.compared, m⟩,
      ⟨.modemKeyMgmtDelete secTag .caChain, d⟩,
      ⟨.modemKeyMgmtWrite secTag .caChain cert.written, e⟩] ↔ m < 0 ∧ d = 0 ∧ e ≠ 0 := by
  simp [Loses, CmpFailed, Deleted, WriteFailed]

/-- The end of `cert_provision` returns the code of the write. -/
theorem ret_err (err : Int) :
    (if err ≠ 0 then pure err else pure 0 : Prog KeyCall.Ans Int) = .ret err := by
  by_cases h : err = 0 <;> simp [h]

/-- A write that succeeds provisions the certificate. -/
theorem provisioned_write (ks : KeyStore) :
    (ks.next (.modemKeyMgmtWrite secTag .caChain cert.written) (0 : Int)).Provisioned secTag
      cert := by
  simp [KeyStore.next, KeyStore.Provisioned]

/-- Each call of `cert_provision` comes to what `ProvPost` says. -/
theorem wp_certProvision (ks : KeyStore) :
    wp KeyStore.env (certProvision secTag cert) (ProvPost secTag cert ks) ks := by
  simp only [certProvision, modemKeyMgmtExists, modemKeyMgmtCmp, modemKeyMgmtDelete,
    modemKeyMgmtWrite, Prog.perform_bind, wp_call, ret_err]
  rintro ⟨err, present⟩ hexists
  by_cases herr : err = 0
  · subst herr
    have hpresent : present = (ks secTag .caChain).isSome := hexists rfl
    cases present with
    | false =>
      simp only [ne_eq, not_true, if_false, Bool.false_eq_true, wp_call, wp_ret]
      intro e _
      refine ⟨?_, ?_⟩
      · rintro rfl
        exact provisioned_write ks
      · intro hks
        rw [hks] at hpresent
        cases hpresent
    | true =>
      simp only [ne_eq, not_true, if_false, if_true, wp_call]
      intro m hcmp
      by_cases hm : m = 0
      · subst hm
        have hks : ks.Provisioned secTag cert := by
          rw [KeyStore.Provisioned, ← Cert.compared_eq]
          exact hcmp.1 rfl
        exact ⟨fun _ => hks, fun _ => iff_of_true hks (by simp [Loses, CmpFailed])⟩
      · simp only [hm, if_false, wp_call, wp_ret]
        intro d _ e _
        refine ⟨?_, ?_⟩
        · rintro rfl
          exact provisioned_write _
        · intro hks
          have hneg : m < 0 := by
            rcases Int.lt_trichotomy m 0 with h | h | h
            · exact h
            · exact absurd h hm
            · refine absurd ?_ (hcmp.2 h)
              rw [Cert.compared_eq]
              exact hks
          rw [loses_replace_iff]
          by_cases he : e = 0
          · subst he
            exact iff_of_true (provisioned_write _) fun h => h.2.2 rfl
          · by_cases hd : d = 0
            · subst hd
              refine iff_of_false ?_ fun h => h ⟨hneg, rfl, he⟩
              simp [KeyStore.env, KeyStore.next, KeyStore.Provisioned, he]
            · refine iff_of_true ?_ fun h => hd h.2.1
              simpa [KeyStore.env, KeyStore.next, KeyStore.Provisioned, he, hd] using hks
  · simp only [ne_eq, herr, not_false_eq_true, if_true, Prog.pure_eq, wp_ret]
    exact ⟨fun h => absurd h herr, fun hks => iff_of_true hks (by simp [Loses, CmpFailed])⟩

/-- So does each step of a run. -/
theorem ProvStep.post {ks ks' : KeyStore} {l : ProvLabel} (h : ProvStep secTag cert ks l ks') :
    ProvPost secTag cert ks l.trace l.rc ks' :=
  Exec.of_wp h (wp_certProvision ks)

/-- A boot with a callback is one call of `cert_provision`, whose result is dropped; without one,
nothing is called. -/
theorem cloudInit_boot {γ : Type} {callback cloudCallback : Option γ} {ks ks' : KeyStore}
    {t : List (Event KeyCall.Ans)} {r : Int × Option γ}
    (h : Exec KeyStore.env ks (cloudInit secTag cert callback cloudCallback) t r ks') :
    if callback.isNone then r = (-EINVAL, cloudCallback) ∧ t = [] ∧ ks' = ks
    else r = (0, callback) ∧ ∃ rc, ProvStep secTag cert ks ⟨t, rc⟩ ks' := by
  cases callback with
  | none =>
    cases h
    exact ⟨rfl, rfl, rfl⟩
  | some callback =>
    obtain ⟨t₁, rc, ks₁, t₂, hprov, hret, rfl⟩ := Exec.bind_inv h
    cases hret
    exact ⟨rfl, rc, by rw [List.append_nil]; exact hprov⟩

/-! ## Runs -/

/-- The credentials after some calls. -/
def KeyStore.afterCalls (ks : KeyStore) (ls : List ProvLabel) : KeyStore :=
  KeyStore.env.after ks (ls.flatMap ProvLabel.trace)

/-- The calls of two runs in a row. -/
theorem KeyStore.afterCalls_append (ks : KeyStore) (ls ms : List ProvLabel) :
    ks.afterCalls (ls ++ ms) = (ks.afterCalls ls).afterCalls ms := by
  rw [afterCalls, List.flatMap_append, Env.after_append]
  rfl

/-- A step leads to where its calls lead. -/
theorem ProvStep.after {ks ks' : KeyStore} {l : ProvLabel} (h : ProvStep secTag cert ks l ks') :
    ks.afterCalls [l] = ks' := by
  rw [KeyStore.afterCalls, List.flatMap_singleton]
  exact Exec.after_eq h

/-- So does a run. -/
theorem ProvRun.after {ks ks' : KeyStore} {ls : List ProvLabel}
    (h : Run (ProvStep secTag cert) ks ls ks') : ks.afterCalls ls = ks' := by
  induction h with
  | nil => rfl
  | cons hl _ ih =>
    rw [← List.singleton_append, KeyStore.afterCalls_append, hl.after]
    exact ih

/-- A call of a run is a step between the credentials before and after it. -/
theorem ProvRun.step {ks ks' : KeyStore} {pre post : List ProvLabel} {l : ProvLabel}
    (h : Run (ProvStep secTag cert) ks (pre ++ l :: post) ks') :
    ProvStep secTag cert (ks.afterCalls pre) l (ks.afterCalls (pre ++ [l])) := by
  obtain ⟨ks₁, hpre, hrest⟩ := h.append_inv
  cases hrest with
  | cons hl _ =>
    rw [KeyStore.afterCalls_append, ProvRun.after hpre, hl.after]
    exact hl

/-- Every call that returns 0 leaves the certificate behind, and once it is there no later call
takes it away. -/
structure Safe (secTag : Nat) (cert : Cert) (ks : KeyStore) (ls : List ProvLabel) : Prop where
  success : ∀ pre l post, ls = pre ++ l :: post → l.rc = 0 →
    (ks.afterCalls (pre ++ [l])).Provisioned secTag cert
  stays : ∀ pre mid post, ls = pre ++ (mid ++ post) →
    (ks.afterCalls pre).Provisioned secTag cert →
    (ks.afterCalls (pre ++ mid)).Provisioned secTag cert

/-- A run of any number of calls from any content of the tag is safe exactly when no call of it
that finds the certificate there has its comparison fail, its deletion succeed and its write
fail. -/
theorem safe_iff {ks ks' : KeyStore} {ls : List ProvLabel}
    (h : Run (ProvStep secTag cert) ks ls ks') :
    Safe secTag cert ks ls ↔ ∀ pre l post, ls = pre ++ l :: post →
      (ks.afterCalls pre).Provisioned secTag cert → ¬ Loses l.trace := by
  constructor
  · rintro hsafe pre l post rfl hpre
    have hafter := hsafe.stays pre [l] post rfl hpre
    exact ((ProvRun.step h).post.stays hpre).1 hafter
  · intro hkeeps
    refine ⟨?_, ?_⟩
    · rintro pre l post rfl hrc
      exact (ProvRun.step h).post.success hrc
    · intro pre mid post hls hpre
      induction mid generalizing pre with
      | nil => rwa [List.append_nil]
      | cons l mid ih =>
        have hls' : ls = pre ++ l :: (mid ++ post) := hls
        have hstep : ProvStep secTag cert (ks.afterCalls pre) l (ks.afterCalls (pre ++ [l])) := by
          rw [hls'] at h
          exact ProvRun.step h
        have hnext := (hstep.post.stays hpre).2 (hkeeps pre l _ hls' hpre)
        have hmid := ih (pre ++ [l]) (by rw [hls']; simp) hnext
        rwa [List.append_assoc] at hmid

end

/-- The beginning of a certificate. -/
def dashes : Cert := { pem := [45, 45, 45, 45, 45], noNul := by simp }

/-- A call that finds nothing, and writes the certificate. -/
def firstBoot : ProvLabel where
  trace := [⟨.modemKeyMgmtExists 42 .caChain, (0, false)⟩,
    ⟨.modemKeyMgmtWrite 42 .caChain dashes.written, (0 : Int)⟩]
  rc := 0

/-- A call that finds the certificate. -/
def secondBoot : ProvLabel where
  trace := [⟨.modemKeyMgmtExists 42 .caChain, (0, true)⟩,
    ⟨.modemKeyMgmtCmp 42 .caChain dashes.compared, (0 : Int)⟩]
  rc := 0

/-- The certificate is written where there was none. -/
theorem firstBoot_step :
    ProvStep 42 dashes (fun _ _ => none) firstBoot
      (KeyStore.set (fun _ _ => none) 42 .caChain (some dashes.written)) :=
  .call (fun _ => rfl) (.call trivial .ret)

/-- It is found where it was written. -/
theorem secondBoot_step (ks : KeyStore) :
    ProvStep 42 dashes (ks.set 42 .caChain (some dashes.written)) secondBoot
      (ks.set 42 .caChain (some dashes.written)) :=
  .call (fun _ => rfl) (.call ⟨fun _ => rfl, nofun⟩ .ret)

/-- The first boot writes the certificate, and the second one finds it. -/
theorem safe_two_boots :
    ∃ ks, Run (ProvStep 42 dashes) (fun _ _ => none) [firstBoot, secondBoot] ks ∧
      Safe 42 dashes (fun _ _ => none) [firstBoot, secondBoot] := by
  have h : Run (ProvStep 42 dashes) (fun _ _ => none) [firstBoot, secondBoot] _ :=
    .cons firstBoot_step (.cons (secondBoot_step _) (.nil _))
  refine ⟨_, h, (safe_iff h).2 ?_⟩
  intro pre l post hls _
  have hmem : l ∈ [firstBoot, secondBoot] := by
    rw [hls]
    simp
  rcases List.mem_cons.1 hmem with rfl | hmem
  · simp [Loses, CmpFailed, firstBoot]
  · rw [List.mem_singleton.1 hmem]
    simp [Loses, CmpFailed, secondBoot]

/-- A call whose comparison fails, whose deletion succeeds and whose write fails. -/
def badBoot : ProvLabel where
  trace := [⟨.modemKeyMgmtExists 42 .caChain, (0, true)⟩,
    ⟨.modemKeyMgmtCmp 42 .caChain dashes.compared, (-1 : Int)⟩,
    ⟨.modemKeyMgmtDelete 42 .caChain, (0 : Int)⟩,
    ⟨.modemKeyMgmtWrite 42 .caChain dashes.written, (-5 : Int)⟩]
  rc := -5

/-- A call that finds the certificate in the tag leaves the tag empty. -/
theorem bad_boot_empties :
    ∃ ks', Run (ProvStep 42 dashes) (fun _ _ => some dashes.pem) [badBoot] ks' ∧
      ks' 42 .caChain = none ∧ ¬ Safe 42 dashes (fun _ _ => some dashes.pem) [badBoot] := by
  have h : ProvStep 42 dashes (fun _ _ => some dashes.pem) badBoot
      (KeyStore.set (fun _ _ => some dashes.pem) 42 .caChain none) :=
    .call (fun _ => rfl) (.call ⟨nofun, nofun⟩ (.call trivial (.call trivial .ret)))
  refine ⟨_, .cons h (.nil _), KeyStore.set_self _ _ _ _, ?_⟩
  intro hsafe
  have hafter := hsafe.stays [] [badBoot] [] rfl rfl
  rw [List.nil_append, h.after, KeyStore.Provisioned, KeyStore.set_self] at hafter
  cases hafter

end NrfFeather
