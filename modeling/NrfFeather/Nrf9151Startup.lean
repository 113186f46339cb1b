import NrfFeather.SysregSetup

/-!
# The VBUS limit at start-up of the nRF9151

`sysreg_setup` of `boards/circuitdojo/feather_nrf9151/startup.c` raises the limit to 1000 mA. Unlike
the one of the nRF9161 it asks for nothing: it requests the limit and brings it into force at every
boot, so a boot that failed halfway is made good by the next one that does not
(`limit_restored`).
-/

namespace NrfFeather.Nrf9151

open Effects Transition

def SYSREG_VBUSINILIM_1000MA : BitVec 8 := 0x0a

/-- `sysreg_setup`; `pmic` says whether the pointer to the device is not `NULL`. -/
def sysregSetup (pmic : Bool) : Prog SysregCall.Ans Int := do
  if !pmic then
    return -ENODEV
  let ret ← mfdNpm1300RegWrite SYSREG_VBUSIN_BASE SYSREG_VBUSINILIM0 SYSREG_VBUSINILIM_1000MA
  if ret < 0 then
    return ret
  let ret ← mfdNpm1300RegWrite SYSREG_VBUSIN_BASE SYSREG_TASKUPDATEILIMSW 0x01
  if ret < 0 then
    return ret
  Prog.perform (SysregCall.kSleep 2)
  return 0

/-- A call to the chip failed. -/
def WriteFailed : Event SysregCall.Ans → Prop
  | ⟨.mfdNpm1300RegWrite _ _ _, r⟩ => (r : Int) < 0
  | _ => False

/-- The limit of 1000 mA. -/
def Raised (v : Vbusin) : Prop :=
  v.requested = SYSREG_VBUSINILIM_1000MA ∧ v.inForce = SYSREG_VBUSINILIM_1000MA

/-- What a call of `sysreg_setup` comes to: it returns 0 exactly when nothing failed, and then the
limit is in force; and whatever fails, no other limit is requested or brought into force. -/
structure SetupPost (pmic : Bool) (v : Vbusin) (t : List (Event SysregCall.Ans)) (ret : Int)
    (v' : Vbusin) : Prop where
  ok : ret = 0 ↔ pmic = true ∧ ∀ e ∈ t, ¬ WriteFailed e
  raised : ret = 0 → Raised v'
  requested : v'.requested = v.requested ∨ v'.requested = SYSREG_VBUSINILIM_1000MA
  inForce : v'.inForce = v.inForce ∨ v'.inForce = SYSREG_VBUSINILIM_1000MA

/-- Without a failing write the limit is requested and in force at the end, from whatever it was. -/
theorem wp_sysregSetup (pmic : Bool) (v : Vbusin) :
    wp Vbusin.env (sysregSetup pmic) (SetupPost pmic v) v := by
  cases pmic with
  | false =>
    have hne : -ENODEV ≠ 0 := by decide
    exact ⟨iff_of_false hne (fun h => nomatch h.1), fun h => absurd h hne, .inl rfl, .inl rfl⟩
  | true =>
    simp only [sysregSetup, mfdNpm1300RegWrite, Prog.perform_bind, Bool.not_true,
      Bool.false_eq_true, if_false, wp_call]
    intro w _
    rw [Vbusin.next_writeLimit]
    by_cases hw : w < 0
    · simp only [hw, if_true, Prog.pure_eq, wp_ret]
      refine ⟨iff_of_false (Int.ne_of_lt hw) ?_, fun h => absurd h (Int.ne_of_lt hw), .inl rfl,
        .inl rfl⟩
      exact fun h => h.2 _ (.head _) hw
    · simp only [hw, if_false, wp_call]
      intro u _
      rw [Vbusin.next_strobe]
      by_cases hu : u < 0
      · simp only [hu, if_true, Prog.pure_eq, wp_ret]
        refine ⟨iff_of_false (Int.ne_of_lt hu) ?_, fun h => absurd h (Int.ne_of_lt hu), .inr rfl,
          .inl rfl⟩
        exact fun h => h.2 _ (.tail _ (.head _)) hu
      · simp only [hu, if_false, Prog.pure_eq, wp_call]
        intro _ _
        refine ⟨iff_of_true rfl ⟨rfl, ?_⟩, fun _ => ⟨rfl, rfl⟩, .inr rfl, .inr rfl⟩
        simp [WriteFailed, hw, hu]

/-- Once the limit is raised, no call changes it. -/
theorem SetupPost.raised_stays {pmic : Bool} {v v' : Vbusin} {t : List (Event SysregCall.Ans)}
    {ret : Int} (h : SetupPost pmic v t ret v') (hv : Raised v) : Raised v' := by
  refine ⟨?_, ?_⟩
  · rcases h.requested with hr | hr
    · exact hr.trans hv.1
    · exact hr
  · rcases h.inForce with hf | hf
    · exact hf.trans hv.2
    · exact hf

/-- In a run of any number of boots, from any limit: a boot with the chip in which no write fails
returns 0, whatever the boots before it left half done, and from then on 1000 mA are requested and
in force after every boot, whatever fails in it. -/
theorem limit_restored {pmic : Bool} {v v' : Vbusin} {bs₁ bs₂ : List SysregBoot} {b : SysregBoot}
    (h : Run (CallStep Vbusin.env (sysregSetup pmic)) v (bs₁ ++ b :: bs₂) v') (hpmic : pmic = true)
    (hb : ∀ e ∈ b.trace, ¬ WriteFailed e) :
    b.ret = 0 ∧ Raised b.after ∧ ∀ c ∈ bs₂, Raised c.after := by
  obtain ⟨u, -, hrest⟩ := h.append_inv
  cases hrest with
  | cons hl hrest =>
    have hpost := hl.post (wp_sysregSetup pmic)
    obtain ⟨rfl, rfl, -⟩ := hl
    have hret := hpost.ok.2 ⟨hpmic, hb⟩
    refine ⟨hret, hpost.raised hret, ?_⟩
    refine hrest.forall_mem_of (I := Raised) (Q := fun c => Raised c.after) ?_ ?_
      (hpost.raised hret)
    · exact fun _ _ _ hv hl => (hl.post (wp_sysregSetup pmic)).raised_stays hv
    · rintro w c w' hv hl
      have hraised := (hl.post (wp_sysregSetup pmic)).raised_stays hv
      obtain ⟨-, rfl, -⟩ := hl
      exact hraised

def request (r : Int) : Event SysregCall.Ans :=
  ⟨.mfdNpm1300RegWrite SYSREG_VBUSIN_BASE SYSREG_VBUSINILIM0 SYSREG_VBUSINILIM_1000MA, r⟩

/-- A boot that fails halfway, one that repairs it, and one that fails with the limit in force. -/
def halfwayBoot : SysregBoot := ⟨⟨0, 0⟩, [request 0, strobe (- EIO)], - EIO, ⟨0x0a, 0⟩⟩

def raisingBoot : SysregBoot :=
  ⟨⟨0x0a, 0⟩, [request 0, strobe 0, ⟨.kSleep 2, ()⟩], 0, ⟨0x0a, 0x0a⟩⟩

def failedBoot : SysregBoot := ⟨⟨0x0a, 0x0a⟩, [request (- EIO)], - EIO, ⟨0x0a, 0x0a⟩⟩

/-- A boot in which nothing works, after one that succeeded. -/
theorem limit_restored_second :
    raisingBoot.ret = 0 ∧ Raised raisingBoot.after ∧ ∀ c ∈ [failedBoot], Raised c.after := by
  have h : Run (CallStep Vbusin.env (sysregSetup true)) ⟨0, 0⟩
      ([halfwayBoot] ++ raisingBoot :: [failedBoot]) ⟨0x0a, 0x0a⟩ :=
    .cons ⟨rfl, rfl, .call trivial (.call trivial .ret)⟩ <|
      .cons ⟨rfl, rfl, .call trivial (.call trivial (.call trivial .ret))⟩ <|
      .cons ⟨rfl, rfl, .call trivial .ret⟩ <| .nil _
  refine limit_restored h rfl ?_
  simp [raisingBoot, request, WriteFailed, strobe]

end NrfFeather.Nrf9151
