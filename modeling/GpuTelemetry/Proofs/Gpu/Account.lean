import GpuTelemetry.Gpu.Collector
import GpuTelemetry.Proofs.Activity.Refusal

/-!
# The account of a device

Each device contributes to an update a list of events and a block of samples, both fixed by its
answers alone. A whole update is the accounts of its devices in the order of their indices, and
it is prompt: a refused sample ends it at once.
-/

namespace GpuTelemetry.GpuCollector

variable {L : Type}

/-- The name under which a device is reported. -/
def nameOf (device : Device) : String :=
  match device.name with
  | .ok name => name
  | .error _ => unknownName

/-- The complaint about a query that failed. -/
def complaint (collector : GpuCollector L) (index : Nat) (query : DeviceQuery)
    (error : QueryError) : Event :=
  ⟨.queryFailed query index error.message, collector.span⟩

/-- The last event about a device that was handed out: the complaint about the first reading that
failed, or that the device was read. -/
def verdict (collector : GpuCollector L) (index : Nat) (device : Device) : Event :=
  match device.utilization, device.temperature, device.memory with
  | .error error, _, _ => collector.complaint index .utilization error
  | .ok _, .error error, _ => collector.complaint index .temperature error
  | .ok _, .ok _, .error error => collector.complaint index .memory error
  | .ok utilization, .ok temperature, .ok _ =>
    ⟨.deviceRead index (nameOf device) utilization.toNat temperature.toNat, collector.span⟩

/-- The events about one device. -/
def account (collector : GpuCollector L) (index : Nat) : Except QueryError Device → List Event
  | .error error => [collector.complaint index .handle error]
  | .ok device =>
    match device.name with
    | .ok _ => [collector.verdict index device]
    | .error error =>
      [collector.complaint index .name error, collector.verdict index device]

/-- The samples of one device. -/
def block (collector : GpuCollector L) (index : Nat) : Except QueryError Device → List Sample
  | .error _ => []
  | .ok device =>
    match device.utilization, device.temperature, device.memory with
    | .ok utilization, .ok temperature, .ok memory =>
      collector.descriptors.samples ⟨index, nameOf device, utilization, temperature, memory⟩
    | _, _, _ => []

/-- The steps about one device: all its events, then its samples. -/
def deviceCourse (collector : GpuCollector L) (index : Nat)
    (device : Except QueryError Device) : List Step :=
  (collector.account index device).map .recorded ++ (collector.block index device).map .offered

/-- A visit records the account of the device before it offers the block. -/
theorem visit_eq (collector : GpuCollector L) (index : Nat) (device : Except QueryError Device) :
    collector.visit index device =
      .recordAll (collector.account index device) (.emitAll (collector.block index device)) := by
  cases device with
  | error error => rfl
  | ok device =>
    obtain ⟨name, utilization, temperature, memory⟩ := device
    cases name <;> cases utilization <;> cases temperature <;> cases memory <;> rfl

section Survey

variable [DeviceLibrary L]

/-- The steps about `remaining` devices from an index on. -/
def surveyCourse (collector : GpuCollector L) (remaining index : Nat) : List Step :=
  (List.range' index remaining).flatMap fun i =>
    collector.deviceCourse i (DeviceLibrary.device collector.library i)

/-- A survey visits one device and goes on if the consumer is still there. -/
theorem survey_succ (collector : GpuCollector L) (remaining index : Nat) :
    collector.survey (remaining + 1) index =
      (collector.visit index (DeviceLibrary.device collector.library index)).bind fun accepted =>
        if accepted then collector.survey remaining (index + 1)
        else .done (.error .sinkClosed) := rfl

/-- A survey goes through the devices one after the other. -/
theorem course_survey (collector : GpuCollector L) (remaining index : Nat) :
    (collector.survey remaining index).course = collector.surveyCourse remaining index := by
  induction remaining generalizing index with
  | zero => rfl
  | succ remaining ih =>
    rw [survey_succ, visit_eq, Activity.course_bind, Activity.outcome_recordAll,
      Activity.outcome_emitAll, if_pos rfl, ih, Activity.course_recordAll,
      Activity.course_emitAll]
    simp only [surveyCourse, List.range'_succ, List.flatMap_cons, deviceCourse]

/-- No device keeps a survey from its end. -/
theorem outcome_survey (collector : GpuCollector L) (remaining index : Nat) :
    (collector.survey remaining index).outcome = .ok () := by
  induction remaining generalizing index with
  | zero => rfl
  | succ remaining ih =>
    rw [survey_succ, visit_eq, Activity.outcome_bind, Activity.outcome_recordAll,
      Activity.outcome_emitAll, if_pos rfl, ih]

private theorem prompt_survey (collector : GpuCollector L) (remaining index : Nat) :
    (collector.survey remaining index).Prompt (.error .sinkClosed) := by
  induction remaining generalizing index with
  | zero => trivial
  | succ remaining ih =>
    rw [survey_succ, visit_eq]
    refine Activity.prompt_bind (Activity.prompt_recordAll _ _ (Activity.prompt_emitAll _)) rfl ?_
    intro accepted
    cases accepted with
    | true => exact ih (index + 1)
    | false => trivial

/-- The collector after its devices were counted once more. -/
def counted (collector : GpuCollector L) : GpuCollector L :=
  collector.withLibrary (DeviceLibrary.enumerate collector.library).2

/-- The steps of a whole update. -/
def updateCourse (collector : GpuCollector L) : List Step :=
  match (DeviceLibrary.enumerate collector.library).1 with
  | .error error => [.recorded ⟨.countFailed error.message, collector.span⟩]
  | .ok count => collector.counted.surveyCourse count 0

/-- The result of an update of which nothing is refused. -/
def updateResult (collector : GpuCollector L) : Except Failure Unit :=
  match (DeviceLibrary.enumerate collector.library).1 with
  | .error error => .error (.deviceCount error)
  | .ok 0 => .error .noDevices
  | .ok (_ + 1) => .ok ()

/-- An update counts once and then surveys the counted devices. -/
theorem update_eq (collector : GpuCollector L) :
    Collector.update collector =
      match (DeviceLibrary.enumerate collector.library).1 with
      | .error error =>
        .record ⟨.countFailed error.message, collector.span⟩
          (.done (.error (.deviceCount error), collector.counted))
      | .ok 0 => .done (.error .noDevices, collector.counted)
      | .ok (count + 1) => (collector.counted.survey (count + 1) 0).bind fun result =>
          .done (result, collector.counted) := by
  simp only [Collector.update, counted]
  cases (DeviceLibrary.enumerate collector.library).1 with
  | error error => rfl
  | ok count => cases count <;> rfl

/-- The course of an update goes through the devices that are counted. -/
theorem course_update (collector : GpuCollector L) :
    (Collector.update collector).course = collector.updateCourse := by
  rw [update_eq, updateCourse]
  cases (DeviceLibrary.enumerate collector.library).1 with
  | error error => rfl
  | ok count =>
    cases count with
    | zero => rfl
    | succ count =>
      simp only [Activity.course_bind, Activity.course_done, List.append_nil, course_survey]

/-- The outcome of an update is its result with the counted collector. -/
theorem outcome_update (collector : GpuCollector L) :
    (Collector.update collector).outcome = (collector.updateResult, collector.counted) := by
  rw [update_eq, updateResult]
  cases (DeviceLibrary.enumerate collector.library).1 with
  | error error => rfl
  | ok count =>
    cases count with
    | zero => rfl
    | succ count => simp only [Activity.outcome_bind, Activity.outcome_done, outcome_survey]

/-- A refused sample ends an update at once, with the devices counted. -/
theorem prompt_update (collector : GpuCollector L) :
    (Collector.update collector).Prompt (.error .sinkClosed, collector.counted) := by
  rw [update_eq]
  cases (DeviceLibrary.enumerate collector.library).1 with
  | error error => trivial
  | ok count =>
    cases count with
    | zero => trivial
    | succ count =>
      exact Activity.prompt_bind (collector.counted.prompt_survey _ _) rfl fun _ => trivial

/-- Collecting takes an update through its full course. -/
theorem trace_update_empty (collector : GpuCollector L) :
    (Collector.update collector).trace Collected.empty = collector.updateCourse := by
  rw [Activity.trace_of_accepts _ (Collected.willing _ _), course_update]

/-- Into an empty list, an update comes to its outcome. -/
theorem result_update_empty (collector : GpuCollector L) :
    ((Collector.update collector).perform Collected.empty).result =
      (collector.updateResult, collector.counted) := by
  rw [Activity.result_of_accepts _ (Collected.willing _ _), outcome_update]

/-- A collector of its own accord never says that the consumer is gone. -/
theorem updateResult_ne_sinkClosed (collector : GpuCollector L) :
    collector.updateResult ≠ .error .sinkClosed := by
  unfold updateResult
  split <;> simp

end Survey

end GpuTelemetry.GpuCollector
