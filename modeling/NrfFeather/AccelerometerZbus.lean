import Mathlib.Logic.Basic
import NrfFeather.Lib.Accounting
import NrfFeather.Lib.Prog
import NrfFeather.Lib.Queue
import NrfFeather.Lib.Signal
import NrfFeather.Zephyr

/-!
# The accelerometer on zbus

`samples/accelerometer_zbus` is a pipeline of four threads of control. A timer submits the work item
`start_work`, or the sensor's driver calls `trigger_handler`; either publishes on
`sample_start_chan`. The subscriber `sample_start_sub` queues up to four such notifications, and a
publication that finds the queue full waits for half a second and is then given up. The thread
`sensor_task` takes one notification after the other, fetches a sample and publishes it on
`sample_data_chan`, whose listener is called with it.

The steps of the four may be interleaved in any way. What the drivers return is in the labels.
-/

namespace NrfFeather

open Effects Transition Signal Queues

/-! ## Setting up the sensor -/

inductive AccelCall where
  | deviceIsReady
  /-- Of the sampling frequency. -/
  | sensorAttrSet (odr : SensorValue)
  /-- For data that is ready, with `trigger_handler`. -/
  | sensorTriggerSet

@[reducible] def AccelCall.Ans : AccelCall → Type
  | .deviceIsReady => Bool
  | .sensorAttrSet _ | .sensorTriggerSet => Int

/-- The accelerometer: whether it is there, and whether its trigger is set. -/
structure Accel where
  ready : Bool
  triggerSet : Bool

namespace Accel

def next (w : Accel) : (c : AccelCall) → c.Ans → Accel
  | .sensorTriggerSet, r => if r = 0 then { w with triggerSet := true } else w
  | _, _ => w

def allows (w : Accel) : (c : AccelCall) → c.Ans → Prop
  | .deviceIsReady, r => r = w.ready
  | _, _ => True

def env : Env AccelCall.Ans Accel := ⟨allows, next⟩

def deviceIsReady : Prog AccelCall.Ans Bool := .perform AccelCall.deviceIsReady

def sensorAttrSet (odr : SensorValue) : Prog AccelCall.Ans Int :=
  .perform (AccelCall.sensorAttrSet odr)

def sensorTriggerSet : Prog AccelCall.Ans Int := .perform AccelCall.sensorTriggerSet

/-- `sensor_init`; `trigger` is `CONFIG_LIS2DH_TRIGGER` and `odrRuntime`
`CONFIG_LIS2DH_ODR_RUNTIME`. -/
def sensorInit (trigger odrRuntime : Bool) : Prog AccelCall.Ans Int := do
  if !(← deviceIsReady) then
    return - EIO
  if trigger then
    if odrRuntime then
      let rc ← sensorAttrSet { val1 := 1, val2 := 0 }
      if rc ≠ 0 then
        return rc
    let rc ← sensorTriggerSet
    if rc ≠ 0 then
      return rc
  return 0

end Accel

/-! ## The pipeline -/

/-- The values of the three axes. -/
abbrev AccelXyz : Type := Fin 3 → SensorValue

/-- `struct sensor_data`. -/
structure SensorData where
  ts : Int
  value : AccelXyz

/-- The channels of the sample. -/
inductive ZbusChannel where
  | sampleStartChan
  | sampleDataChan
  deriving DecidableEq

/-- Where the handler of `start_work`, or `trigger_handler`, stands. -/
inductive StarterPc where
  | idle
  /-- In `zbus_chan_pub(&sample_start_chan, ..)`. -/
  | pub
  deriving DecidableEq

/-- Where `sensor_task` stands. -/
inductive TaskPc where
  /-- In `zbus_sub_wait`. -/
  | wait
  /-- Before `sensor_sample_fetch`. -/
  | fetch
  /-- The sample is fetched; before `k_uptime_get`. -/
  | uptime
  /-- Before `sensor_channel_get`. -/
  | get (ts : Int)
  /-- In `zbus_chan_pub(&sample_data_chan, ..)`. -/
  | pub (data : SensorData)

structure Pipeline where
  accel : Accel
  /-- `start_work` is submitted. -/
  startWork : Sem 1
  starter : StarterPc
  sampleStartSub : Queue 4 ZbusChannel
  task : TaskPc
  /-- What the driver fetched last. -/
  sample : AccelXyz
  /-- The uptime, in milliseconds. -/
  now : Int
  /-- What the listener was called with. -/
  received : List SensorData

inductive PipeLabel where
  /-- `sample_timer` expires. -/
  | sampleTimerHandler
  /-- The work queue calls `start_work_handler`. -/
  | startWorkHandler
  /-- The driver calls `trigger_handler`. -/
  | triggerHandler
  /-- The notification is queued. -/
  | pubStart
  /-- The queue has been full until the timeout. -/
  | pubStartTimeout
  | elapse (ms : Nat)
  | zbusSubWait
  | sensorSampleFetch (rc : Int) (sample : AccelXyz)
  | kUptimeGet
  | sensorChannelGet (rc : Int)
  /-- The data is published, and the listener called, unless the channel could not be had. -/
  | pubData (rc : Int)

/-- `sensor_task` goes on after this code of `sensor_sample_fetch`: an overrun is ignored. -/
def Fetched (rc : Int) : Prop := rc = 0 ∨ rc = -EBADMSG

instance (rc : Int) : Decidable (Fetched rc) := inferInstanceAs (Decidable (_ ∨ _))

namespace Pipeline

def step (trigger : Bool) (s : Pipeline) : PipeLabel → Option Pipeline
  | .sampleTimerHandler =>
    if trigger then none else some { s with startWork := s.startWork.give }
  | .startWorkHandler =>
    if trigger ∨ s.starter ≠ .idle then none
    else s.startWork.take.map fun startWork => { s with startWork, starter := .pub }
  | .triggerHandler =>
    if trigger ∧ s.accel.triggerSet ∧ s.starter = .idle then some { s with starter := .pub }
    else none
  | .pubStart =>
    if s.starter = .pub then
      (s.sampleStartSub.put .sampleStartChan).map fun sampleStartSub =>
        { s with sampleStartSub, starter := .idle }
    else none
  | .pubStartTimeout =>
    if s.starter = .pub ∧ s.sampleStartSub.Full then some { s with starter := .idle } else none
  | .elapse ms => some { s with now := s.now + ms }
  | .zbusSubWait =>
    match s.task with
    | .wait => s.sampleStartSub.get.map fun (_, sampleStartSub) =>
        { s with sampleStartSub, task := .fetch }
    | _ => none
  | .sensorSampleFetch rc sample =>
    match s.task with
    | .fetch => some { s with sample, task := if Fetched rc then .uptime else .wait }
    | _ => none
  | .kUptimeGet =>
    match s.task with
    | .uptime => some { s with task := .get s.now }
    | _ => none
  | .sensorChannelGet rc =>
    match s.task with
    -- the driver delivers what it fetched last
    | .get ts => some { s with task := if rc = 0 then .pub ⟨ts, s.sample⟩ else .wait }
    | _ => none
  | .pubData rc =>
    match s.task with
    | .pub data =>
      some { s with task := .wait, received := if rc = 0 then s.received ++ [data] else s.received }
    | _ => none

/-- The threads start, the sensor having been set up. -/
def booted (accel : Accel) (sample : AccelXyz) (now : Int) : Pipeline where
  accel := accel
  startWork := .empty
  starter := .idle
  sampleStartSub := .empty
  task := .wait
  sample := sample
  now := now
  received := []

/-- Nothing is left to do: no work is submitted or in progress, no notification is queued, and
`sensor_task` waits. -/
structure Quiet (s : Pipeline) : Prop where
  startWork : s.startWork.count = 0
  starter : s.starter = .idle
  queue : s.sampleStartSub.items = []
  task : s.task = .wait

end Pipeline

/-! ## The steps one by one -/

/-- What a step can be: where it starts, and what it changes. -/
inductive PipeStep (trigger : Bool) (s : Pipeline) : PipeLabel → Pipeline → Prop where
  | sampleTimerHandler (hmode : trigger = false) :
      PipeStep trigger s .sampleTimerHandler { s with startWork := s.startWork.give }
  | startWorkHandler {startWork : Sem 1} (hmode : trigger = false) (hstarter : s.starter = .idle)
      (hwork : s.startWork.take = some startWork) :
      PipeStep trigger s .startWorkHandler { s with startWork, starter := .pub }
  | triggerHandler (hmode : trigger = true) (hset : s.accel.triggerSet = true)
      (hstarter : s.starter = .idle) :
      PipeStep trigger s .triggerHandler { s with starter := .pub }
  | pubStart {sampleStartSub : Queue 4 ZbusChannel} (hstarter : s.starter = .pub)
      (hput : s.sampleStartSub.put .sampleStartChan = some sampleStartSub) :
      PipeStep trigger s .pubStart { s with sampleStartSub, starter := .idle }
  | pubStartTimeout (hstarter : s.starter = .pub) (hfull : s.sampleStartSub.Full) :
      PipeStep trigger s .pubStartTimeout { s with starter := .idle }
  | elapse {ms : Nat} : PipeStep trigger s (.elapse ms) { s with now := s.now + ms }
  | zbusSubWait {chan : ZbusChannel} {sampleStartSub : Queue 4 ZbusChannel}
      (htask : s.task = .wait) (hget : s.sampleStartSub.get = some (chan, sampleStartSub)) :
      PipeStep trigger s .zbusSubWait { s with sampleStartSub, task := .fetch }
  | fetched {rc : Int} {sample : AccelXyz} (htask : s.task = .fetch) (hrc : Fetched rc) :
      PipeStep trigger s (.sensorSampleFetch rc sample) { s with sample, task := .uptime }
  | fetchFailed {rc : Int} {sample : AccelXyz} (htask : s.task = .fetch) (hrc : ¬ Fetched rc) :
      PipeStep trigger s (.sensorSampleFetch rc sample) { s with sample, task := .wait }
  | kUptimeGet (htask : s.task = .uptime) :
      PipeStep trigger s .kUptimeGet { s with task := .get s.now }
  | got {ts : Int} (htask : s.task = .get ts) :
      PipeStep trigger s (.sensorChannelGet 0) { s with task := .pub ⟨ts, s.sample⟩ }
  | getFailed {rc ts : Int} (htask : s.task = .get ts) (hrc : rc ≠ 0) :
      PipeStep trigger s (.sensorChannelGet rc) { s with task := .wait }
  | published {data : SensorData} (htask : s.task = .pub data) :
      PipeStep trigger s (.pubData 0) { s with task := .wait, received := s.received ++ [data] }
  | pubFailed {rc : Int} {data : SensorData} (htask : s.task = .pub data) (hrc : rc ≠ 0) :
      PipeStep trigger s (.pubData rc) { s with task := .wait }

/-- Each step of the pipeline is one of the moves of `PipeStep`, with what it asks for and what it
changes. -/
theorem Pipeline.step_inv {trigger : Bool} {s t : Pipeline} {l : PipeLabel}
    (h : s.step trigger l = some t) : PipeStep trigger s l t := by
  cases l with
  | sampleTimerHandler =>
    cases trigger with
    | false => cases h; exact .sampleTimerHandler rfl
    | true => cases h
  | startWorkHandler =>
    simp only [step] at h
    split at h
    · cases h
    · next hmode =>
      obtain ⟨hmode, hstarter⟩ := not_or.1 hmode
      obtain ⟨startWork, hwork, rfl⟩ := Option.map_eq_some_iff.1 h
      exact .startWorkHandler (Bool.eq_false_iff.2 hmode) (not_not.1 hstarter) hwork
  | triggerHandler =>
    simp only [step] at h
    split at h
    · next hmode =>
      cases h
      exact .triggerHandler hmode.1 hmode.2.1 hmode.2.2
    · cases h
  | pubStart =>
    simp only [step] at h
    split at h
    · next hstarter =>
      obtain ⟨q, hput, rfl⟩ := Option.map_eq_some_iff.1 h
      exact .pubStart hstarter hput
    · cases h
  | pubStartTimeout =>
    simp only [step] at h
    split at h
    · next hfull =>
      cases h
      exact .pubStartTimeout hfull.1 hfull.2
    · cases h
  | elapse ms => cases h; exact .elapse
  | zbusSubWait =>
    simp only [step] at h
    split at h
    · next htask =>
      obtain ⟨⟨chan, q⟩, hget, rfl⟩ := Option.map_eq_some_iff.1 h
      exact .zbusSubWait htask hget
    · cases h
  | sensorSampleFetch rc sample =>
    simp only [step] at h
    split at h
    · next htask =>
      cases h
      by_cases hrc : Fetched rc
      · rw [if_pos hrc]
        exact .fetched htask hrc
      · rw [if_neg hrc]
        exact .fetchFailed htask hrc
    · cases h
  | kUptimeGet =>
    simp only [step] at h
    split at h
    · next htask => cases h; exact .kUptimeGet htask
    · cases h
  | sensorChannelGet rc =>
    simp only [step] at h
    split at h
    · next ts htask =>
      cases h
      by_cases hrc : rc = 0
      · subst hrc
        exact .got htask
      · rw [if_neg hrc]
        exact .getFailed htask hrc
    · cases h
  | pubData rc =>
    simp only [step] at h
    split at h
    · next data htask =>
      cases h
      by_cases hrc : rc = 0
      · subst hrc
        exact .published htask
      · rw [if_neg hrc]
        exact .pubFailed htask hrc
    · cases h

/-- The runs of the sample. -/
abbrev PipeRun (trigger : Bool) : Pipeline → List PipeLabel → Pipeline → Prop :=
  Run (Steps (Pipeline.step trigger))

variable {trigger : Bool} {s t : Pipeline} {ls : List PipeLabel}

/-! ## Requests -/

/-- A sample is asked for. -/
def PipeLabel.requests : PipeLabel → Bool
  | .sampleTimerHandler | .triggerHandler => true
  | _ => false

def PipeLabel.fetches : PipeLabel → Bool
  | .sensorSampleFetch _ _ => true
  | _ => false

/-- A request is on its way to the sensor. -/
def Pipeline.Requested (s : Pipeline) : Prop :=
  0 < s.startWork.count ∨ s.starter = .pub ∨ s.sampleStartSub.items ≠ [] ∨ s.task = .fetch

/-- Behind a request, work is pending, a notification is queued or the task is about to fetch. -/
theorem PipeStep.requested {l : PipeLabel} (h : PipeStep trigger s l t)
    (hl : l.requests = true) : t.Requested := by
  cases h with
  | sampleTimerHandler =>
    refine .inl ?_
    simp only [Sem.give_count]
    omega
  | triggerHandler => exact .inr (.inl rfl)
  | _ => cases hl

/-- A request stays on its way until a sample is fetched; also one whose notification is given up,
because others are queued then. -/
theorem PipeStep.stays {l : PipeLabel} (h : PipeStep trigger s l t) (hs : s.Requested) :
    t.Requested ∨ l.fetches = true := by
  cases h with
  | sampleTimerHandler hmode => exact .inl (requested (.sampleTimerHandler hmode) rfl)
  | startWorkHandler => exact .inl (.inr (.inl rfl))
  | triggerHandler => exact .inl (.inr (.inl rfl))
  | pubStart _ hput =>
    refine .inl (.inr (.inr (.inl ?_)))
    rw [Queue.put_eq_some hput]
    exact List.append_ne_nil_of_right_ne_nil _ (List.cons_ne_nil _ _)
  | pubStartTimeout _ hfull => exact .inl (.inr (.inr (.inl (hfull.items_ne_nil (by decide)))))
  | elapse => exact .inl hs
  | zbusSubWait => exact .inl (.inr (.inr (.inr rfl)))
  | fetched => exact .inr rfl
  | fetchFailed => exact .inr rfl
  | kUptimeGet htask | got htask | getFailed htask | published htask | pubFailed htask =>
    refine .inl ?_
    rcases hs with hs | hs | hs | hs
    · exact .inl hs
    · exact .inr (.inl hs)
    · exact .inr (.inr (.inl hs))
    · rw [htask] at hs
      cases hs

/-- In every run, with any interleaving of the threads and any outcome of the drivers: when nothing
is left to do, each request has been followed by a fetch that began after it, also those whose
notification was given up because the queue was full. -/
theorem requests_answered (h : PipeRun trigger s ls t) (ht : t.Quiet) :
    Answered (fun l => l.requests = true) (fun l => l.fetches = true) ls := by
  refine h.answered (fun _ _ _ hl => (Pipeline.step_inv hl).requested)
    (fun _ _ _ hl => (Pipeline.step_inv hl).stays) ?_
  rintro (hwork | hstarter | hqueue | htask)
  · rw [ht.startWork] at hwork
    cases hwork
  · rw [ht.starter] at hstarter
    cases hstarter
  · exact hqueue ht.queue
  · rw [ht.task] at htask
    cases htask

/-- An accelerometer at rest, on its back. -/
def atRest : AccelXyz
  | 2 => ⟨9, 806650⟩
  | _ => ⟨0, 0⟩

/-- The sensor does not answer while five samples are asked for: the fifth notification is given up,
and then the four that are queued are taken. -/
def crowdedLabels : List PipeLabel :=
  (List.replicate 4 [.sampleTimerHandler, .startWorkHandler, .pubStart]).flatten ++
    [.sampleTimerHandler, .startWorkHandler, .pubStartTimeout] ++
    (List.replicate 4 [.zbusSubWait, .sensorSampleFetch (- EIO) atRest]).flatten

/-- Five requests meet a queue of four, and the last notification is dropped. -/
theorem requests_answered_crowded :
    Answered (fun l => l.requests = true) (fun l => l.fetches = true) crowdedLabels :=
  have h : PipeRun false (.booted ⟨true, false⟩ atRest 0) crowdedLabels _ := exec_eq_some.1 rfl
  requests_answered h ⟨rfl, rfl, rfl, rfl⟩

/-! ## Samples -/

def PipeLabel.notifies : PipeLabel → Bool
  | .pubStart => true
  | _ => false

def PipeLabel.waits : PipeLabel → Bool
  | .zbusSubWait => true
  | _ => false

/-- The sample that was fetched. -/
def PipeLabel.fetched : PipeLabel → Option AccelXyz
  | .sensorSampleFetch rc sample => if Fetched rc then some sample else none
  | _ => none

def TaskPc.busy : TaskPc → Nat
  | .wait => 0
  | _ => 1

def StarterPc.busy : StarterPc → Nat
  | .idle => 0
  | .pub => 1

/-- The requests that have not led to a sample yet, and may still do so. -/
def Pipeline.inFlight (s : Pipeline) : Nat :=
  s.startWork.count + s.starter.busy + s.sampleStartSub.items.length + s.task.busy

/-- A notification is queued until it is taken. -/
theorem PipeStep.queued {l : PipeLabel} (h : PipeStep trigger s l t) :
    t.sampleStartSub.items.length + l.waits.toNat =
      s.sampleStartSub.items.length + l.notifies.toNat := by
  cases h with
  | pubStart _ hput =>
    rw [Queue.put_eq_some hput]
    simp [PipeLabel.waits, PipeLabel.notifies]
  | zbusSubWait _ hget =>
    rw [Queue.get_eq_some hget]
    simp [PipeLabel.waits, PipeLabel.notifies]
  | _ => rfl

/-- A sample is delivered in place of a request. -/
theorem PipeStep.delivers {l : PipeLabel} (h : PipeStep trigger s l t) :
    t.received.length + t.inFlight + false.toNat ≤
      s.received.length + s.inFlight + l.requests.toNat := by
  cases h with
  | sampleTimerHandler =>
    simp only [Pipeline.inFlight, Sem.give_count, PipeLabel.requests, Bool.toNat_true,
      Bool.toNat_false]
    omega
  | startWorkHandler _ hstarter hwork =>
    have hcount := Sem.take_eq_some.1 hwork
    simp only [Pipeline.inFlight, hstarter, StarterPc.busy, PipeLabel.requests, Bool.toNat_false]
    omega
  | triggerHandler _ _ hstarter =>
    simp only [Pipeline.inFlight, hstarter, StarterPc.busy, PipeLabel.requests, Bool.toNat_true,
      Bool.toNat_false]
    omega
  | pubStart hstarter hput =>
    simp only [Pipeline.inFlight, hstarter, Queue.put_eq_some hput, StarterPc.busy,
      PipeLabel.requests, Bool.toNat_false, List.length_append, List.length_singleton]
    omega
  | pubStartTimeout hstarter =>
    simp only [Pipeline.inFlight, hstarter, StarterPc.busy, PipeLabel.requests, Bool.toNat_false]
    omega
  | elapse => exact Nat.le_refl _
  | zbusSubWait htask hget =>
    simp only [Pipeline.inFlight, htask, Queue.get_eq_some hget, TaskPc.busy, PipeLabel.requests,
      Bool.toNat_false, List.length_cons]
    omega
  | published htask =>
    simp only [Pipeline.inFlight, htask, TaskPc.busy, PipeLabel.requests, Bool.toNat_false,
      List.length_append, List.length_singleton]
    omega
  | fetched htask | fetchFailed htask | kUptimeGet htask | got htask | getFailed htask
  | pubFailed htask =>
    simp only [Pipeline.inFlight, htask, TaskPc.busy, PipeLabel.requests, Bool.toNat_false]
    omega

/-- The listener got some of the fetched samples, in order; and one more may be on its way. -/
def Pipeline.Carries (s : Pipeline) (fetched : List AccelXyz) : Prop :=
  match s.task with
  | .wait | .fetch => (s.received.map SensorData.value).Sublist fetched
  | .uptime | .get _ => (s.received.map SensorData.value ++ [s.sample]).Sublist fetched
  | .pub data => (s.received.map SensorData.value ++ [data.value]).Sublist fetched

/-- What a step fetches comes behind what was fetched before, and what it delivers was fetched. -/
theorem PipeStep.carries {l : PipeLabel} (h : PipeStep trigger s l t) {fetched : List AccelXyz}
    (hs : s.Carries fetched) : t.Carries (fetched ++ l.fetched.toList) := by
  cases h with
  | fetched htask hrc =>
    rw [Pipeline.Carries, htask] at hs
    simp only [PipeLabel.fetched, if_pos hrc, Option.toList]
    exact hs.append (.refl _)
  | fetchFailed htask hrc =>
    rw [Pipeline.Carries, htask] at hs
    simp only [PipeLabel.fetched, if_neg hrc, Option.toList, List.append_nil]
    exact hs
  | zbusSubWait htask | kUptimeGet htask | got htask =>
    rw [Pipeline.Carries, htask] at hs
    show Pipeline.Carries _ (fetched ++ [])
    rw [List.append_nil]
    exact hs
  | getFailed htask | pubFailed htask =>
    rw [Pipeline.Carries, htask] at hs
    show Pipeline.Carries _ (fetched ++ [])
    rw [List.append_nil]
    exact (List.sublist_append_left _ _).trans hs
  | published htask =>
    rw [Pipeline.Carries, htask] at hs
    show Pipeline.Carries _ (fetched ++ [])
    rw [List.append_nil]
    simpa [Pipeline.Carries] using hs
  | _ =>
    show Pipeline.Carries _ (fetched ++ [])
    rw [List.append_nil]
    exact hs

/-- The time stamp of the sample that is on its way, or the uptime. -/
def Pipeline.clock (s : Pipeline) : Int :=
  match s.task with
  | .get ts => ts
  | .pub data => data.ts
  | _ => s.now

/-- The listener is called with ever later samples, none later than now. -/
structure Pipeline.Timed (s : Pipeline) : Prop where
  sorted : (s.received.map SensorData.ts).Pairwise (· ≤ ·)
  before : ∀ data ∈ s.received, data.ts ≤ s.clock
  clock : s.clock ≤ s.now

/-- No step lets a time stamp go back or run ahead of the clock. -/
theorem PipeStep.timed {l : PipeLabel} (h : PipeStep trigger s l t) (hs : s.Timed) : t.Timed := by
  obtain ⟨hsorted, hbefore, hclock⟩ := hs
  -- every other step leaves what was received, and takes the clock on to at most now
  have hkeep : ∀ t : Pipeline, t.received = s.received → s.clock ≤ t.clock → t.clock ≤ t.now →
      t.Timed := by
    intro t hreceived hle hnow
    refine ⟨hreceived ▸ hsorted, ?_, hnow⟩
    rw [hreceived]
    exact fun data hdata => Int.le_trans (hbefore data hdata) hle
  cases h with
  | published htask =>
    rw [Pipeline.clock, htask] at hbefore hclock
    refine ⟨?_, ?_, Int.le_refl _⟩
    · rw [List.map_append, List.pairwise_append]
      refine ⟨hsorted, List.pairwise_singleton _ _, ?_⟩
      simpa using hbefore
    · refine List.forall_mem_append.2 ⟨?_, List.forall_mem_singleton.2 hclock⟩
      exact fun data hdata => Int.le_trans (hbefore data hdata) hclock
  | elapse =>
    refine hkeep _ rfl ?_ ?_
    · cases htask : s.task <;> simp only [Pipeline.clock, htask] <;> omega
    · cases htask : s.task <;> simp only [Pipeline.clock, htask] at hclock ⊢ <;> omega
  | zbusSubWait htask | fetched htask | fetchFailed htask | kUptimeGet htask | got htask
  | getFailed htask | pubFailed htask =>
    refine hkeep _ rfl ?_ ?_
    · simp only [Pipeline.clock, htask] at hclock ⊢
      omega
    · simp only [Pipeline.clock, htask] at hclock ⊢
      omega
  | _ => exact hkeep _ rfl (Int.le_refl _) hclock

/-- What the labels of a run say of the state it leads to: every notification is queued or taken,
each delivered sample or one in flight has its own request, the listener got fetched samples only,
in order and none twice, with time stamps that never go back. -/
structure Accounted (ls : List PipeLabel) (s : Pipeline) : Prop where
  queued : s.sampleStartSub.items.length + ls.countP PipeLabel.waits = ls.countP PipeLabel.notifies
  delivered : s.received.length + s.inFlight ≤ ls.countP PipeLabel.requests
  values : (s.received.map SensorData.value).Sublist (ls.filterMap PipeLabel.fetched)
  times : (s.received.map SensorData.ts).Pairwise (· ≤ ·) ∧ ∀ data ∈ s.received, data.ts ≤ s.now

/-- What the listener got was fetched, in this order and nothing twice. -/
theorem Pipeline.Carries.sublist {fetched : List AccelXyz} (h : s.Carries fetched) :
    (s.received.map SensorData.value).Sublist fetched := by
  unfold Carries at h
  split at h
  · exact h
  · exact h
  · exact (List.sublist_append_left _ _).trans h
  · exact (List.sublist_append_left _ _).trans h
  · exact (List.sublist_append_left _ _).trans h

/-- In every run from boot, with any interleaving of the threads and any outcome of the drivers, the
samples are accounted for. -/
theorem samples_accounted {accel : Accel} {sample : AccelXyz} {now : Int}
    (h : PipeRun trigger (.booted accel sample now) ls s) : Accounted ls s := by
  have hstep : ∀ s l t, Steps (Pipeline.step trigger) s l t → PipeStep trigger s l t :=
    fun _ _ _ => Pipeline.step_inv
  have hdelivered : s.received.length + s.inFlight + ls.countP (fun _ => false) ≤
      0 + ls.countP PipeLabel.requests := h.count_le fun _ _ _ hl => (hstep _ _ _ hl).delivers
  have hqueued : s.sampleStartSub.items.length + ls.countP PipeLabel.waits =
      0 + ls.countP PipeLabel.notifies := h.count_eq fun _ _ _ hl => (hstep _ _ _ hl).queued
  have hcarries : s.Carries (ls.filterMap PipeLabel.fetched) := by
    refine h.history (I := fun ls s => s.Carries (ls.filterMap PipeLabel.fetched)) ?_ ?_
    · intro ls s l t hs hl
      have ht := (hstep _ _ _ hl).carries hs
      rw [List.filterMap_append]
      cases hfetched : l.fetched <;> simpa [hfetched] using ht
    · exact List.nil_sublist _
  have htimed : s.Timed := by
    refine h.invariant (I := Pipeline.Timed) (fun _ _ _ hs hl => (hstep _ _ _ hl).timed hs) ?_
    exact ⟨.nil, List.forall_mem_nil _, Int.le_refl _⟩
  refine ⟨?_, ?_, hcarries.sublist, htimed.sorted, ?_⟩
  · omega
  · omega
  · exact fun data hdata => Int.le_trans (htimed.before data hdata) htimed.clock

/-- Two rounds: the second sample is an overrun. -/
def twoRounds : List PipeLabel :=
  [.elapse 1000, .sampleTimerHandler, .startWorkHandler, .pubStart, .zbusSubWait,
    .sensorSampleFetch 0 atRest, .sampleTimerHandler, .startWorkHandler, .pubStart, .kUptimeGet,
    .sensorChannelGet 0, .pubData 0, .elapse 1000, .zbusSubWait,
    .sensorSampleFetch (-EBADMSG) atRest, .kUptimeGet, .sensorChannelGet 0, .pubData 0]

/-- Two requests, two samples. -/
theorem samples_accounted_twoRounds :
    ∃ s, PipeRun false (.booted ⟨true, false⟩ atRest 0) twoRounds s ∧ s.received.length = 2 ∧
      Accounted twoRounds s :=
  have h : PipeRun false (.booted ⟨true, false⟩ atRest 0) twoRounds _ := exec_eq_some.1 rfl
  ⟨_, h, rfl, samples_accounted h⟩

/-! ## The set-up of the sensor -/

/-- What `sensor_init` comes to in a build with the trigger. -/
structure SensorInitPost (w : Accel) (ret : Int) (w' : Accel) : Prop where
  ready : ret = 0 → w.ready = true
  triggerSet : w'.triggerSet = true → w.triggerSet = true ∨ ret = 0

/-- The set-up arms the trigger only if it succeeds, on a device that is ready. -/
theorem wp_sensorInit (odrRuntime : Bool) (w : Accel) :
    wp Accel.env (Accel.sensorInit true odrRuntime) (fun _ => SensorInitPost w) w := by
  have htrigger : w.ready = true → wp Accel.env
      (do
        let rc ← Accel.sensorTriggerSet
        if rc ≠ 0 then
          return rc
        return 0) (fun _ => SensorInitPost w) w := by
    intro hready
    rw [Accel.sensorTriggerSet, Prog.perform_bind, wp_call]
    intro rc _
    by_cases hrc : rc = 0
    · subst hrc
      exact ⟨fun _ => hready, fun _ => .inr rfl⟩
    · rw [if_pos hrc]
      refine ⟨fun h => absurd h hrc, fun h => .inl ?_⟩
      simpa [Accel.env, Accel.next, hrc] using h
  simp only [Accel.sensorInit, Accel.deviceIsReady, Prog.perform_bind, wp_call]
  intro ready hready
  cases ready with
  | false => exact ⟨fun h => absurd h (by decide), fun h => .inl h⟩
  | true =>
    cases odrRuntime with
    | false => exact htrigger hready.symm
    | true =>
      simp only [Accel.sensorAttrSet, Bool.not_true, Bool.false_eq_true, if_false, if_true,
        Prog.perform_bind, wp_call]
      intro rc _
      by_cases hrc : rc = 0
      · subst hrc
        exact htrigger hready.symm
      · rw [if_pos hrc]
        exact ⟨fun h => absurd h hrc, fun h => .inl h⟩

/-- In a build with the trigger, this one not being set: nothing can be asked for. -/
def Pipeline.Dormant (s : Pipeline) : Prop := s.accel.triggerSet = false ∧ s.Quiet

/-- A pipeline that no trigger wakes stays dormant, and fetches nothing. -/
theorem PipeStep.dormant {l : PipeLabel} (h : PipeStep true s l t) (hs : s.Dormant) :
    t.Dormant ∧ l.fetches = false := by
  obtain ⟨hset, hquiet⟩ := hs
  cases h with
  | elapse => exact ⟨⟨hset, hquiet.1, hquiet.2, hquiet.3, hquiet.4⟩, rfl⟩
  | sampleTimerHandler hmode | startWorkHandler hmode => cases hmode
  | triggerHandler _ hset' =>
    rw [hset] at hset'
    cases hset'
  | pubStart hstarter | pubStartTimeout hstarter =>
    rw [hquiet.starter] at hstarter
    cases hstarter
  | zbusSubWait _ hget =>
    have hqueue := hquiet.queue
    rw [Queue.get_eq_some hget] at hqueue
    cases hqueue
  | fetched htask | fetchFailed htask | kUptimeGet htask | got htask | getFailed htask
  | published htask | pubFailed htask =>
    rw [hquiet.task] at htask
    cases htask

/-- In a build with the trigger the sensor is fetched from only if it was ready when it was set up,
and this succeeded. -/
theorem fetched_only_ready {odrRuntime : Bool} {accel accel' : Accel}
    {tr : List (Event AccelCall.Ans)} {ret : Int} {sample : AccelXyz} {now : Int} {l : PipeLabel}
    (hinit : Exec Accel.env accel (Accel.sensorInit true odrRuntime) tr ret accel')
    (hreset : accel.triggerSet = false) (h : PipeRun true (.booted accel' sample now) ls s)
    (hl : l ∈ ls) (hfetch : l.fetches = true) : ret = 0 ∧ accel.ready = true := by
  have hpost := hinit.of_wp (wp_sensorInit odrRuntime accel)
  have hset : accel'.triggerSet = true := by
    refine Bool.of_not_eq_false fun hset => ?_
    have hnone := h.forall_mem_of (I := Pipeline.Dormant) (Q := fun l => l.fetches = false)
      (fun _ _ _ hs hl => ((Pipeline.step_inv hl).dormant hs).1)
      (fun _ _ _ hs hl => ((Pipeline.step_inv hl).dormant hs).2)
      ⟨hset, rfl, rfl, rfl, rfl⟩ l hl
    rw [hnone] at hfetch
    cases hfetch
  rcases hpost.triggerSet hset with h | hret
  · rw [hreset] at h
    cases h
  · exact ⟨hret, hpost.ready hret⟩

/-- A fetch after a set-up that succeeded. -/
theorem fetched_only_ready_trigger : (⟨true, false⟩ : Accel).ready = true :=
  have hinit : Exec Accel.env ⟨true, false⟩ (Accel.sensorInit true false)
      [⟨.deviceIsReady, true⟩, ⟨.sensorTriggerSet, (0 : Int)⟩] 0 ⟨true, true⟩ :=
    .call rfl (.call trivial .ret)
  have h : PipeRun true (.booted ⟨true, true⟩ atRest 0)
      [.triggerHandler, .pubStart, .zbusSubWait, .sensorSampleFetch 0 atRest] _ :=
    exec_eq_some.1 rfl
  (fetched_only_ready (l := .sensorSampleFetch 0 atRest) hinit rfl h (by simp) rfl).2

/-- In a build without the trigger the timer is started whatever `sensor_init` returned, and a
sensor that is not there is fetched from. -/
theorem unready_fetched (sample : AccelXyz) (now : Int) :
    Exec Accel.env ⟨false, false⟩ (Accel.sensorInit false false) [⟨.deviceIsReady, false⟩] (- EIO)
        ⟨false, false⟩ ∧
      ∃ s, PipeRun false (.booted ⟨false, false⟩ sample now)
        [.sampleTimerHandler, .startWorkHandler, .pubStart, .zbusSubWait,
          .sensorSampleFetch (- EIO) sample] s :=
  ⟨.call rfl .ret, _, exec_eq_some.1 rfl⟩

end NrfFeather
