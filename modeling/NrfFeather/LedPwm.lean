import NrfFeather.Lib.Prog
import NrfFeather.Lib.Transition
import NrfFeather.Zephyr

/-!
# The LED sample

`samples/led_pwm/src/main.c` tests one LED after the other, for ever: on, off, a slow rise of the
brightness, two kinds of blinking, off. A test is given up at the first call that fails, with one
exception. The number of the LED is a byte, so with more than 255 LEDs the loop over them never
ends, and it starts again at LED 0 by overflow: the LEDs from 256 on are never tested
(`leds_in_turn`).
-/

namespace NrfFeather.LedPwm

open Effects Transition

def MAX_BRIGHTNESS : Nat := 100

inductive LedCall where
  | ledOn (led : UInt8)
  | ledOff (led : UInt8)
  | ledSetBrightness (led : UInt8) (value : Nat)
  /-- The times on and off, in milliseconds. -/
  | ledBlink (led : UInt8) (delayOn delayOff : Nat)
  | kSleep (ms : Nat)
  deriving DecidableEq

@[reducible] def LedCall.Ans : LedCall → Type
  | .kSleep _ => Unit
  | _ => Int

/-- What an LED does. -/
inductive LedMode where
  | off
  | on
  | brightness (value : Nat)
  | blink (delayOn delayOff : Nat)
  deriving DecidableEq

/-- The LEDs of the device. -/
abbrev Leds : Type := UInt8 → LedMode

namespace Leds

def set (s : Leds) (led : UInt8) (mode : LedMode) : Leds := fun l => if l = led then mode else s l

/-- A call that fails changes nothing. -/
def next (s : Leds) : (c : LedCall) → c.Ans → Leds
  | .ledOn led, r => if r < (0 : Int) then s else s.set led .on
  | .ledOff led, r => if r < (0 : Int) then s else s.set led .off
  | .ledSetBrightness led value, r => if r < (0 : Int) then s else s.set led (.brightness value)
  | .ledBlink led delayOn delayOff, r =>
    if r < (0 : Int) then s else s.set led (.blink delayOn delayOff)
  | .kSleep _, _ => s

def env : Env LedCall.Ans Leds := ⟨fun _ _ _ => True, next⟩

end Leds

/-! ## The sample -/

def ledOn (led : UInt8) : Prog LedCall.Ans Int := .perform (LedCall.ledOn led)

def ledOff (led : UInt8) : Prog LedCall.Ans Int := .perform (LedCall.ledOff led)

def ledSetBrightness (led : UInt8) (value : Nat) : Prog LedCall.Ans Int :=
  .perform (LedCall.ledSetBrightness led value)

def ledBlink (led : UInt8) (delayOn delayOff : Nat) : Prog LedCall.Ans Int :=
  .perform (LedCall.ledBlink led delayOn delayOff)

def kSleep (ms : Nat) : Prog LedCall.Ans Unit := .perform (LedCall.kSleep ms)

/-- The loop over the levels; `false` if a call failed. -/
def fade (led : UInt8) : List Nat → Prog LedCall.Ans Bool
  | [] => return true
  | level :: levels => do
    let err ← ledSetBrightness led level
    if err < 0 then
      return false
    kSleep 10
    fade led levels

def runLedTest (led : UInt8) : Prog LedCall.Ans Unit := do
  let err ← ledOn led
  if err < 0 then
    return ()
  kSleep 1000
  let err ← ledOff led
  if err < 0 then
    return ()
  kSleep 1000
  if !(← fade led (List.range (MAX_BRIGHTNESS + 1))) then
    return ()
  kSleep 1000
  let err ← ledBlink led 100 100
  if err < 0 then
    return ()
  kSleep 5000
  -- an error is only logged
  let _err ← ledBlink led 1000 1000
  kSleep 5000
  let _err ← ledOff led

/-- `led` and the LEDs, at the head of the loop over them. -/
structure LedState where
  led : UInt8
  leds : Leds

inductive LedLabel where
  /-- `run_led_test`. -/
  | test (led : UInt8) (t : List (Event LedCall.Ans))
  /-- The loop over the LEDs has ended, and is entered again. -/
  | again

/-- `main` behind the two checks of the device. -/
inductive LedStep (numLeds : Nat) (s : LedState) : LedLabel → LedState → Prop where
  | test {t : List (Event LedCall.Ans)} {leds : Leds} (hled : s.led.toNat < numLeds)
      (hrun : Exec Leds.env s.leds (runLedTest s.led) t () leds) :
      LedStep numLeds s (.test s.led t) ⟨s.led + 1, leds⟩
  | again (hled : ¬ s.led.toNat < numLeds) : LedStep numLeds s .again ⟨0, s.leds⟩

abbrev LedRun (numLeds : Nat) : LedState → List LedLabel → LedState → Prop :=
  Run (LedStep numLeds)

/-! ## A test -/

/-- The call is to this LED, or to none. -/
def Concerns (led : UInt8) : Event LedCall.Ans → Prop
  | ⟨.ledOn l, _⟩ | ⟨.ledOff l, _⟩ | ⟨.ledSetBrightness l _, _⟩ | ⟨.ledBlink l _ _, _⟩ => l = led
  | ⟨.kSleep _, _⟩ => True

/-- The level that is set. -/
def level : Event LedCall.Ans → Option Nat
  | ⟨.ledSetBrightness _ value, _⟩ => some value
  | _ => none

/-- A call fails that makes the test give up. -/
def GivesUp : Event LedCall.Ans → Prop
  | ⟨.ledOn _, r⟩ | ⟨.ledOff _, r⟩ | ⟨.ledSetBrightness _ _, r⟩ => r < (0 : Int)
  | ⟨.ledBlink _ delayOn _, r⟩ => delayOn = 100 ∧ r < (0 : Int)
  | ⟨.kSleep _, _⟩ => False

/-- What the rest of a test comes to: it touches no other LED and sets no levels but these, in
order. If it is not given up then it sets all of them, and leaves the LED off. -/
structure Tested (led : UInt8) (levels : List Nat) (t : List (Event LedCall.Ans)) (s' : Leds) :
    Prop where
  concerns : ∀ e ∈ t, Concerns led e
  ordered : t.filterMap level <+: levels
  done : (∀ e ∈ t, ¬ GivesUp e) → t.filterMap level = levels ∧ s' led = .off

section
variable {led : UInt8} {levels : List Nat} {t u : List (Event LedCall.Ans)} {s s' : Leds}
  {e : Event LedCall.Ans}

/-- A call for the LED that sets no level comes before the rest of a test. -/
theorem Tested.cons (hc : Concerns led e) (hl : level e = none) (h : Tested led levels t s') :
    Tested led levels (e :: t) s' := by
  refine ⟨List.forall_mem_cons.2 ⟨hc, h.concerns⟩, ?_, ?_⟩
  · rw [List.filterMap_cons_none hl]
    exact h.ordered
  · rw [List.filterMap_cons_none hl]
    exact fun hall => h.done (List.forall_mem_cons.1 hall).2

/-- The test is given up. -/
theorem Tested.giveUp (hc : Concerns led e) (hl : level e = none) (hg : GivesUp e) :
    Tested led levels [e] s' := by
  refine ⟨List.forall_mem_singleton.2 hc, ?_, fun hall => absurd hg (hall e (.head _))⟩
  rw [List.filterMap_cons_none hl]
  exact List.nil_prefix

/-- The levels have all been set, and the test goes on. -/
theorem Tested.append (hc : ∀ e ∈ t, Concerns led e) (hl : t.filterMap level = levels)
    (h : Tested led [] u s') : Tested led levels (t ++ u) s' := by
  have hlevels : (t ++ u).filterMap level = levels := by
    rw [List.filterMap_append, hl, List.prefix_nil.1 h.ordered, List.append_nil]
  refine ⟨List.forall_mem_append.2 ⟨hc, h.concerns⟩, ?_, ?_⟩
  · exact hlevels ▸ List.prefix_refl _
  · exact fun hall => ⟨hlevels, (h.done (List.forall_mem_append.1 hall).2).2⟩

/-- The levels are set one by one until a call fails. -/
theorem wp_fade (led : UInt8) (levels : List Nat) (s : Leds) :
    wp Leds.env (fade led levels) (fun t ok s' =>
      (∀ e ∈ t, Concerns led e) ∧
        if ok then t.filterMap level = levels else Tested led levels t s') s := by
  induction levels generalizing s with
  | nil => exact ⟨nofun, rfl⟩
  | cons value levels ih =>
    rw [fade, ledSetBrightness, Prog.perform_bind, wp_call]
    intro r _
    split
    · next hr =>
      have hc : ∀ e ∈ [(⟨.ledSetBrightness led value, r⟩ : Event LedCall.Ans)], Concerns led e :=
        List.forall_mem_singleton.2 rfl
      refine ⟨hc, hc, ⟨levels, rfl⟩, fun hall => absurd hr (hall _ (.head _))⟩
    · rw [kSleep, Prog.perform_bind, wp_call]
      intro _ _
      refine wp_mono ?_ (ih _)
      rintro t ok s' ⟨hc, hlevels⟩
      have hc : ∀ e ∈ (⟨.ledSetBrightness led value, r⟩ : Event LedCall.Ans) ::
          ⟨.kSleep 10, ()⟩ :: t, Concerns led e :=
        List.forall_mem_cons.2 ⟨rfl, List.forall_mem_cons.2 ⟨trivial, hc⟩⟩
      refine ⟨hc, ?_⟩
      split
      · next hok =>
        rw [if_pos hok] at hlevels
        exact congrArg (value :: ·) hlevels
      · next hok =>
        rw [if_neg hok] at hlevels
        refine ⟨hc, (List.prefix_cons_inj value).2 hlevels.ordered, fun hall => ?_⟩
        have hdone := hlevels.done (List.forall_mem_cons.1 (List.forall_mem_cons.1 hall).2).2
        exact ⟨congrArg (value :: ·) hdone.1, hdone.2⟩

/-- The blinking at the end of a test, and off. -/
def blinkAndOff (led : UInt8) : Prog LedCall.Ans Unit := do
  kSleep 1000
  let err ← ledBlink led 100 100
  if err < 0 then
    return ()
  kSleep 5000
  let _err ← ledBlink led 1000 1000
  kSleep 5000
  let _err ← ledOff led

/-- The end of a test blinks and turns the LED off, if no call fails. -/
theorem wp_blinkAndOff (led : UInt8) (s : Leds) :
    wp Leds.env (blinkAndOff led) (fun t _ s' => Tested led [] t s') s := by
  rw [blinkAndOff, kSleep, Prog.perform_bind, wp_call]
  intro _ _
  rw [ledBlink, Prog.perform_bind, wp_call]
  intro r₁ _
  split
  · next h₁ => exact Tested.cons trivial rfl (.giveUp rfl rfl ⟨rfl, h₁⟩)
  · rw [kSleep, Prog.perform_bind, wp_call]
    intro _ _
    rw [ledBlink, Prog.perform_bind, wp_call]
    intro r₂ _
    rw [Prog.perform_bind, wp_call]
    intro _ _
    rw [ledOff, Prog.perform_bind, wp_call]
    intro r₃ _
    refine Tested.cons trivial rfl (.cons rfl rfl (.cons trivial rfl (.cons rfl rfl
      (.cons trivial rfl ⟨List.forall_mem_singleton.2 rfl, List.nil_prefix, ?_⟩))))
    intro hall
    have h₃ : ¬ r₃ < (0 : Int) := hall _ (.head _)
    refine ⟨rfl, ?_⟩
    show Leds.next _ (.ledOff led) r₃ led = .off
    simp only [Leds.next, if_neg h₃, Leds.set, if_true]

/-- A test turns the LED on and off, goes through all levels, and then blinks. -/
theorem runLedTest_eq (led : UInt8) :
    runLedTest led = (do
      let err ← ledOn led
      if err < 0 then
        return ()
      kSleep 1000
      let err ← ledOff led
      if err < 0 then
        return ()
      kSleep 1000
      if !(← fade led (List.range (MAX_BRIGHTNESS + 1))) then
        return ()
      blinkAndOff led) := rfl

/-- A test goes through all levels in order, as far as no call fails. -/
theorem wp_runLedTest (led : UInt8) (s : Leds) :
    wp Leds.env (runLedTest led)
      (fun t _ s' => Tested led (List.range (MAX_BRIGHTNESS + 1)) t s') s := by
  rw [runLedTest_eq, ledOn, Prog.perform_bind, wp_call]
  intro r₁ _
  split
  · next h₁ => exact .giveUp rfl rfl h₁
  · rw [kSleep, Prog.perform_bind, wp_call]
    intro _ _
    rw [ledOff, Prog.perform_bind, wp_call]
    intro r₂ _
    split
    · next h₂ => exact .cons rfl rfl (.cons trivial rfl (.giveUp rfl rfl h₂))
    · rw [Prog.perform_bind, wp_call]
      intro _ _
      rw [wp_bind]
      refine wp_mono ?_ (wp_fade led _ _)
      rintro t ok s' ⟨hc, hlevels⟩
      have hstart {u : List (Event LedCall.Ans)} {s' : Leds}
          (h : Tested led (List.range (MAX_BRIGHTNESS + 1)) u s') :
          Tested led (List.range (MAX_BRIGHTNESS + 1)) (⟨.ledOn led, r₁⟩ :: ⟨.kSleep 1000, ()⟩ ::
            ⟨.ledOff led, r₂⟩ :: ⟨.kSleep 1000, ()⟩ :: u) s' :=
        .cons rfl rfl (.cons trivial rfl (.cons rfl rfl (.cons trivial rfl h)))
      cases ok with
      | false =>
        refine hstart ?_
        rw [List.append_nil]
        exact hlevels
      | true =>
        refine wp_mono ?_ (wp_blinkAndOff led s')
        exact fun u _ s'' hu => hstart (.append hc hlevels hu)

end

/-- A call leaves the LEDs alone that it does not concern. -/
theorem next_of_concerns {led l : UInt8} (hl : l ≠ led) (s : Leds) {c : LedCall} {r : c.Ans}
    (h : Concerns led ⟨c, r⟩) : s.next c r l = s l := by
  cases c with
  | kSleep => rfl
  | ledOn | ledOff | ledSetBrightness | ledBlink =>
    have h : _ = led := h
    subst h
    simp only [Leds.next]
    split
    · rfl
    · exact if_neg hl

/-- Calls for one LED leave every other one as it was. -/
theorem after_of_concerns {led l : UInt8} (hl : l ≠ led) {t : List (Event LedCall.Ans)}
    (h : ∀ e ∈ t, Concerns led e) (s : Leds) : Leds.env.after s t l = s l := by
  induction t generalizing s with
  | nil => rfl
  | cons e t ih =>
    rw [List.forall_mem_cons] at h
    rw [Env.after_cons, ih h.2]
    exact next_of_concerns hl s h.1

/-- What an LED does after a call depends only on what it did before. -/
theorem next_congr {led : UInt8} {s s' : Leds} (h : s led = s' led) (c : LedCall) (r : c.Ans) :
    s.next c r led = s'.next c r led := by
  cases c with
  | kSleep => exact h
  | ledOn | ledOff | ledSetBrightness | ledBlink =>
    simp only [Leds.next]
    split
    · exact h
    · exact ite_congr rfl (fun _ => rfl) fun _ => h

/-- What an LED does after some calls depends on what it did before them, and on no other LED. -/
theorem after_congr {led : UInt8} {s s' : Leds} (h : s led = s' led)
    (t : List (Event LedCall.Ans)) : Leds.env.after s t led = Leds.env.after s' t led := by
  induction t generalizing s s' with
  | nil => exact h
  | cons e t ih => exact ih (next_congr h e.1 e.2)

/-- A test leaves the other LEDs alone. -/
theorem Tested.other {led l : UInt8} {levels : List Nat} {t : List (Event LedCall.Ans)}
    {s s' : Leds} (h : Tested led levels t s') (hrun : Exec Leds.env s (runLedTest led) t () s')
    (hl : l ≠ led) : s' l = s l := by
  rw [← hrun.after_eq]
  exact after_of_concerns hl h.concerns s

/-! ## Runs -/

/-- The LED a step tests. -/
def tested : LedLabel → Option UInt8
  | .test led _ => some led
  | .again => none

/-- The calls of a step that tests `led`. -/
def testOf (led : UInt8) : LedLabel → Option (List (Event LedCall.Ans))
  | .test l t => if l = led then some t else none
  | .again => none

/-- The calls of the last test of `led`. -/
def lastTest (led : UInt8) (ls : List LedLabel) : Option (List (Event LedCall.Ans)) :=
  lastWrite (testOf led) ls

/-- The calls of all tests of `led`, in order. -/
def callsOf (led : UInt8) (ls : List LedLabel) : List (Event LedCall.Ans) :=
  (ls.filterMap (testOf led)).flatten

/-- A further test of the LED adds its calls. -/
theorem callsOf_concat (led : UInt8) (ls : List LedLabel) (l : LedLabel) :
    callsOf led (ls ++ [l]) = callsOf led ls ++ (testOf led l).getD [] := by
  unfold callsOf
  rw [List.filterMap_append, List.flatten_append]
  cases h : testOf led l <;> simp [h]

/-- How many LEDs the byte can count. -/
def counted (numLeds : Nat) : Nat := min numLeds 256

/-- The LED that is tested as number `i`, from 0. -/
def inTurn (numLeds i : Nat) : UInt8 := UInt8.ofNat (i % counted numLeds)

/-- After the tests of `ls`, the loop is at the LED whose turn it is, or behind the last one. -/
structure InTurn (numLeds : Nat) (ls : List LedLabel) (s : LedState) : Prop where
  le : s.led.toNat ≤ counted numLeds
  mod : s.led.toNat % counted numLeds = (ls.filterMap tested).length % counted numLeds
  turns : ls.filterMap tested = (List.range (ls.filterMap tested).length).map (inTurn numLeds)

/-- The byte overflows only where the LEDs start again anyway. -/
theorem byte_mod_counted {numLeds led : Nat} (h : led < counted numLeds) :
    (led + 1) % 256 % counted numLeds = (led + 1) % counted numLeds := by
  rcases Nat.lt_or_ge (led + 1) 256 with hlt | hge
  · rw [Nat.mod_eq_of_lt hlt]
  · have h256 : counted numLeds = 256 := by
      unfold counted at *
      omega
    rw [h256, Nat.mod_mod]

/-- Each step tests the LED whose turn it is. -/
theorem inTurn_step {numLeds : Nat} (ls : List LedLabel) (s : LedState) (l : LedLabel)
    (s' : LedState) (hi : InTurn numLeds ls s) (h : LedStep numLeds s l s') :
    InTurn numLeds (ls ++ [l]) s' := by
  have hbyte := s.led.toNat_lt
  cases h with
  | @test t leds hled hrun =>
    have hlt : s.led.toNat < counted numLeds := Nat.lt_min.2 ⟨hled, hbyte⟩
    have hmod := hi.mod
    rw [Nat.mod_eq_of_lt hlt] at hmod
    have hturn : inTurn numLeds (ls.filterMap tested).length = s.led := by
      rw [inTurn, ← hmod, UInt8.ofNat_toNat]
    have happ : (ls ++ [LedLabel.test s.led t]).filterMap tested = ls.filterMap tested ++ [s.led] :=
      List.filterMap_append
    have hnext : (s.led + 1).toNat = (s.led.toNat + 1) % 256 := UInt8.toNat_add s.led 1
    refine ⟨?_, ?_, ?_⟩
    · exact hnext ▸ Nat.le_trans (Nat.mod_le _ _) hlt
    · rw [happ, List.length_append, List.length_singleton]
      calc (s.led + 1).toNat % counted numLeds
        _ = (s.led.toNat + 1) % counted numLeds := hnext ▸ byte_mod_counted hlt
        _ = ((ls.filterMap tested).length + 1) % counted numLeds := by
          rw [hmod, Nat.mod_add_mod]
    · rw [happ, List.length_append, List.length_singleton, List.range_succ, List.map_append,
        ← hi.turns]
      exact congrArg (_ ++ [·]) hturn.symm
  | again hled =>
    have heq : s.led.toNat = counted numLeds :=
      Nat.le_antisymm hi.le (Nat.le_trans (Nat.min_le_left _ _) (Nat.le_of_not_lt hled))
    have happ : (ls ++ [LedLabel.again]).filterMap tested = ls.filterMap tested :=
      List.filterMap_append.trans (List.append_nil _)
    have hmod := hi.mod
    rw [heq, Nat.mod_self] at hmod
    refine ⟨Nat.zero_le _, ?_, ?_⟩
    · rw [happ, ← hmod]
      exact Nat.zero_mod _
    · rw [happ]
      exact hi.turns

/-- Each LED does what the calls of its own tests, and no others, have made of what it did at first.
Its last test raised the brightness level by level, and if no call made it give up, through all
levels, and left the LED off. -/
def AsLastTested (leds : Leds) (ls : List LedLabel) (s : LedState) : Prop :=
  ∀ led, s.leds led = Leds.env.after leds (callsOf led ls) led ∧
    match lastTest led ls with
    | none => s.leds led = leds led
    | some t => t.filterMap level <+: List.range (MAX_BRIGHTNESS + 1) ∧
        ((∀ e ∈ t, ¬ GivesUp e) →
          t.filterMap level = List.range (MAX_BRIGHTNESS + 1) ∧ s.leds led = .off)

/-- A test decides for its LED and leaves the others as their last tests have left them. -/
theorem asLastTested_step {numLeds : Nat} {leds : Leds} (ls : List LedLabel) (s : LedState)
    (l : LedLabel) (s' : LedState) (hi : AsLastTested leds ls s) (h : LedStep numLeds s l s') :
    AsLastTested leds (ls ++ [l]) s' := by
  intro led
  obtain ⟨hmode, hlast⟩ := hi led
  rw [lastTest, lastWrite_concat, callsOf_concat]
  cases h with
  | again =>
    refine ⟨?_, hlast⟩
    rw [testOf, Option.getD_none, List.append_nil]
    exact hmode
  | @test t leds' hled hrun =>
    have ht := hrun.of_wp (wp_runLedTest s.led s.leds)
    by_cases heq : s.led = led
    · subst heq
      rw [testOf, if_pos rfl]
      refine ⟨?_, ht.ordered, ht.done⟩
      rw [Option.getD_some, Env.after_append, ← hrun.after_eq]
      exact after_congr hmode t
    · rw [testOf, if_neg heq]
      have hother : leds' led = s.leds led := ht.other hrun (Ne.symm heq)
      refine ⟨?_, ?_⟩
      · rw [Option.getD_none, List.append_nil]
        exact hother.trans hmode
      · show match lastTest led ls with
          | none => leds' led = leds led
          | some t => t.filterMap level <+: List.range (MAX_BRIGHTNESS + 1) ∧
              ((∀ e ∈ t, ¬ GivesUp e) →
                t.filterMap level = List.range (MAX_BRIGHTNESS + 1) ∧ leds' led = .off)
        rw [hother]
        exact hlast

/-- The step calls no other LED than the one it tests. -/
def CallsItsOwn : LedLabel → Prop
  | .test led t => ∀ e ∈ t, Concerns led e
  | .again => True

/-- No test makes a call for another LED. -/
theorem callsItsOwn_step {numLeds : Nat} (s : LedState) (l : LedLabel) (s' : LedState)
    (h : LedStep numLeds s l s') : CallsItsOwn l := by
  cases h with
  | again => trivial
  | test hled hrun => exact (hrun.of_wp (wp_runLedTest s.led s.leds)).concerns

/-- The LEDs are tested in turn, and only those whose number fits a byte; a test calls no other LED;
and each LED is as the calls of its own tests have left it, with the brightness raised level by
level in the last one, and off unless a call failed that makes a test give up. -/
theorem leds_in_turn {numLeds : Nat} {leds : Leds} {ls : List LedLabel} {s' : LedState}
    (h : LedRun numLeds ⟨0, leds⟩ ls s') :
    (∃ n, ls.filterMap tested = (List.range n).map (inTurn numLeds)) ∧
      (∀ l ∈ ls, CallsItsOwn l) ∧ AsLastTested leds ls s' := by
  have hstart : InTurn numLeds [] ⟨0, leds⟩ := ⟨Nat.zero_le _, rfl, rfl⟩
  have hturn : InTurn numLeds ls s' := h.history inTurn_step hstart
  have hlast : AsLastTested leds [] ⟨0, leds⟩ := fun _ => ⟨rfl, rfl⟩
  exact ⟨⟨_, hturn.turns⟩, h.forall_mem callsItsOwn_step, h.history asLastTested_step hlast⟩

/-- Both of two LEDs fail at once, and the first one is tested again. -/
theorem leds_in_turn_failing : ∃ ls s', LedRun 2 ⟨0, fun _ => .on⟩ ls s' ∧
    ls.filterMap tested = [0, 1, 0] ∧ AsLastTested (fun _ => .on) ls s' := by
  have hfail (led : UInt8) : Exec Leds.env (fun _ => .on) (runLedTest led)
      [⟨.ledOn led, (-19 : Int)⟩] () (fun _ => .on) := .call trivial .ret
  have h₀ : LedStep 2 ⟨0, fun _ => .on⟩ (.test 0 _) ⟨1, _⟩ := .test (by decide : 0 < 2) (hfail 0)
  have h₁ : LedStep 2 ⟨1, fun _ => .on⟩ (.test 1 _) ⟨2, _⟩ := .test (by decide : 1 < 2) (hfail 1)
  have h₂ : LedStep 2 ⟨2, fun _ => .on⟩ .again ⟨0, _⟩ := .again (by decide : ¬ 2 < 2)
  have hrun : LedRun 2 ⟨0, fun _ => .on⟩ [_, _, _, _] ⟨1, fun _ => .on⟩ :=
    .cons h₀ (.cons h₁ (.cons h₂ (.cons h₀ (.nil _))))
  exact ⟨_, _, hrun, rfl, (leds_in_turn hrun).2.2⟩

end NrfFeather.LedPwm
