import GpuTelemetry.Device.Bench
import GpuTelemetry.Proofs.Gpu.Naming
import GpuTelemetry.Proofs.Gpu.Readings
import GpuTelemetry.Proofs.Gpu.Update
import GpuTelemetry.Vendor.Bench
import Mathlib.Data.List.TakeWhile

/-!
# Scripts reenacted in memory

What the vendor's library answers about its devices can be put into a frame: the devices that are
counted, with the scripted values, and with the error of every status code in its place. A
collector over the frame does what a collector over the library does. The two differ in how they
come by a name: the frame has the text, the library has bytes in a buffer, which end at the first
zero byte and are cut where the buffer ends. This makes no difference to a text that fits. Bytes
that are no text can still become one when they are cut.
-/

namespace GpuTelemetry.Vendor

/-- The answer to a query, or the error that its status code stands for. -/
def told {α : Type} (code : Nat) (answer : Except QueryError α) : Except QueryError α :=
  match Trouble.ofCode? code with
  | none => answer
  | some trouble => .error trouble.queryError

private theorem bind_checked {α : Type} (code : Nat) (answer : Except QueryError α) :
    ((checked code ()).bind fun () => answer) = told code answer := by
  unfold checked told
  cases Trouble.ofCode? code <;> rfl

/-- The text of some bytes. -/
def plainText (bytes : List UInt8) : Except QueryError String :=
  match Utf8.decode? bytes with
  | some text => .ok text
  | none => .error Trouble.notUtf8.queryError

/-- What the buffer for a name keeps of some bytes. -/
def keptName (bytes : List UInt8) : List UInt8 :=
  (bytes.take (nameCapacity - 1)).takeWhile (· ≠ 0)

/-- The text of some bytes, or else of what the buffer for a name keeps of them. -/
def nameText (bytes : List UInt8) : Except QueryError String :=
  match Utf8.decode? bytes with
  | some text => .ok text
  | none => plainText (keptName bytes)

/-- A buffer keeps bytes that fit into it and do not end early. -/
theorem keptName_of_fits {bytes : List UInt8} (hz : 0 ∉ bytes) (hl : bytes.length < nameCapacity) :
    keptName bytes = bytes := by
  have htake : bytes.take (nameCapacity - 1) = bytes := List.take_of_length_le (by omega)
  rw [keptName, htake, List.takeWhile_eq_self_iff]
  intro byte hb
  rw [decide_eq_true_iff]
  rintro rfl
  exact hz hb

/-- The name in the buffer is the text of the bytes if all texts fit. -/
theorem bufferText_eq_nameText {bytes : List UInt8}
    (h : ∀ text, Utf8.decode? bytes = some text → 0 ∉ bytes ∧ bytes.length < nameCapacity) :
    bufferText nameCapacity bytes = nameText bytes := by
  change plainText (keptName bytes) = nameText bytes
  unfold nameText
  cases hd : Utf8.decode? bytes with
  | none => rfl
  | some text =>
    obtain ⟨hz, hl⟩ := h text hd
    rw [keptName_of_fits hz hl, plainText, hd]

/-- A scripted device in memory; `read` makes a text of its name. -/
def ScriptedDevice.reenacted (read : List UInt8 → Except QueryError String)
    (device : ScriptedDevice) : BenchDevice where
  handleError := (Trouble.ofCode? device.codes.handle).map Trouble.queryError
  answers :=
    { name := told device.codes.name (read device.name)
      utilization := told device.codes.utilization (.ok device.utilization)
      temperature := told device.codes.temperature (.ok device.temperature)
      memory := told device.codes.memory (.ok device.memory) }

/-- A device whose name fits into the buffer if it is a text gives the answers of its
reenactment. -/
theorem ScriptedDevice.answers_eq_reenacted {device : ScriptedDevice}
    (h : ∀ text, Utf8.decode? device.name = some text →
      0 ∉ device.name ∧ device.name.length < nameCapacity) :
    device.answers = (device.reenacted nameText).answers := by
  have hname : ((checked device.codes.name ()).bind fun () => bufferText nameCapacity device.name) =
      told device.codes.name (nameText device.name) := by
    rw [bind_checked, bufferText_eq_nameText h]
  rw [answers, hname]
  rfl

namespace Script

/-- The number of devices that the script reports. -/
def reported (script : Script) : Nat := script.count.getD script.devices.length

/-- The reported devices in memory, or a frame that cannot be counted. -/
def reenacted (read : List UInt8 → Except QueryError String) (script : Script) : Frame :=
  match Trouble.ofCode? script.countCode with
  | some trouble => .failing trouble.queryError
  | none => ⟨(script.devices.take script.reported).map (ScriptedDevice.reenacted read), none⟩

/-- A script that reports no devices it does not have, and whose names fit into their buffers if
they are texts. -/
structure Orderly (script : Script) : Prop where
  /-- The reported devices are there. -/
  reported_le : script.reported ≤ script.devices.length
  /-- A name that is a text has no zero byte and leaves room for the closing one. -/
  names_fit : ∀ device ∈ script.devices, ∀ text, Utf8.decode? device.name = some text →
    0 ∉ device.name ∧ device.name.length < nameCapacity

/-- The script with other memory utilisations. -/
def withMemoryUtilizations (script : Script) (change : Nat → UInt32) : Script :=
  { script with devices := script.devices.mapIdx fun i device =>
      { device with memoryUtilization := change i } }

/-- The same devices are counted. -/
theorem count_reenacted (read : List UInt8 → Except QueryError String) {script : Script}
    (h : script.reported ≤ script.devices.length) :
    (DeviceLibrary.enumerate script).1 = (DeviceLibrary.enumerate (script.reenacted read)).1 := by
  change script.deviceCount = (script.reenacted read).count
  unfold deviceCount checked reenacted
  cases Trouble.ofCode? script.countCode with
  | some trouble => rfl
  | none =>
    have hlength : (script.devices.take script.reported).length = script.reported :=
      List.length_take_of_le h
    simp only [Frame.count, List.length_map, hlength, Option.elim_none]
    rfl

/-- The devices that are counted give the same answers. -/
theorem device_reenacted {script : Script} (h : script.Orderly) {count : Nat}
    (hc : (DeviceLibrary.enumerate (script.reenacted nameText)).1 = .ok count) :
    ∀ i < count, DeviceLibrary.device script i =
      DeviceLibrary.device (script.reenacted nameText) i := by
  intro i hi
  change script.device i = (script.reenacted nameText).device i
  change (script.reenacted nameText).count = .ok count at hc
  unfold reenacted at hc ⊢
  cases hcode : Trouble.ofCode? script.countCode with
  | some trouble =>
    rw [hcode] at hc
    cases hc
  | none =>
    rw [hcode] at hc
    have hreported : i < script.reported := by
      have hlength := Except.ok.inj hc
      rw [List.length_map, List.length_take_of_le h.reported_le] at hlength
      omega
    have hle := h.reported_le
    obtain ⟨device, hdevice⟩ : ∃ device, script.devices[i]? = some device :=
      ⟨_, List.getElem?_eq_getElem (by omega)⟩
    have hanswers := ScriptedDevice.answers_eq_reenacted
      (h.names_fit device (List.mem_of_getElem? hdevice))
    simp only [Script.device, Frame.device, List.getElem?_map, List.getElem?_take_of_lt hreported,
      hdevice, Option.map_some]
    rw [hanswers, checked, ScriptedDevice.reenacted]
    cases Trouble.ofCode? device.codes.handle <;> rfl

/-- Nobody asks for memory utilisations. -/
theorem device_withMemoryUtilizations (script : Script) (change : Nat → UInt32) (i : Nat) :
    DeviceLibrary.device (script.withMemoryUtilizations change) i =
      DeviceLibrary.device script i := by
  change (script.withMemoryUtilizations change).device i = script.device i
  simp only [Script.device, withMemoryUtilizations, List.getElem?_mapIdx]
  cases script.devices[i]? <;> rfl

/-- Nobody counts memory utilisations. -/
theorem count_withMemoryUtilizations (script : Script) (change : Nat → UInt32) :
    (DeviceLibrary.enumerate (script.withMemoryUtilizations change)).1 =
      (DeviceLibrary.enumerate script).1 := by
  change (script.withMemoryUtilizations change).deviceCount = script.deviceCount
  simp only [deviceCount, withMemoryUtilizations, List.length_mapIdx]

end Script

variable {τ : Type} [Sink τ]

/-- Performed into one sink, two activities come to the same: the first of their results, what is
offered, the sink and the log. -/
def SameRun {κ κ' : Type} (run : Activity (Except Failure Unit × κ))
    (run' : Activity (Except Failure Unit × κ')) (sink : τ) : Prop :=
  (run.perform sink).result.1 = (run'.perform sink).result.1 ∧
    run.trace sink = run'.trace sink ∧
    (run.perform sink).sink = (run'.perform sink).sink ∧
    (run.perform sink).log = (run'.perform sink).log

/-- Activities that are alike in every respect come to the same. -/
theorem SameRun.of_alike {κ κ' : Type} {run : Activity (Except Failure Unit × κ)}
    {run' : Activity (Except Failure Unit × κ')}
    (h : Activity.Alike id (fun done done' => done.1 = done'.1) run run') (sink : τ) :
    SameRun run run' sink :=
  h.perform_same sink

/-- A collector over an orderly script and one over its reenactment do the same, and memory
utilisations make no difference. -/
theorem update_reenacted {script : Script} (h : script.Orderly) (metricNamespace : String)
    (span : Option String) :
    let made := GpuCollector.create script metricNamespace span
    let made' := GpuCollector.create (script.reenacted nameText) metricNamespace span
    made.map (fun _ => ()) = made'.map (fun _ => ()) ∧
    ∀ collector collector', made = .ok collector → made' = .ok collector' → ∀ sink : τ,
      SameRun (Collector.update collector) (Collector.update collector') sink ∧
      (∀ bench : Bench, bench.host.script = script →
        bench.collector = some (collector.withLibrary ⟨⟩) →
        let performed := (Collector.update collector').perform sink
        (bench.answer (.update sink)).1 =
          .performed ⟨performed.result.1, performed.sink, performed.log⟩) ∧
      ∀ change, SameRun
        (Collector.update (collector.withLibrary (script.withMemoryUtilizations change)))
        (Collector.update collector) sink := by
  intro made made'
  constructor
  · simp only [made, made', GpuCollector.create]
    cases GpuDescriptors.create metricNamespace <;> rfl
  · intro collector collector' hmade hmade' sink
    obtain ⟨descriptors, hd, rfl⟩ := GpuCollector.exists_of_create_eq_ok hmade
    obtain ⟨descriptors', hd', rfl⟩ := GpuCollector.exists_of_create_eq_ok hmade'
    obtain rfl : descriptors = descriptors' := Except.ok.inj (hd.symm.trans hd')
    let collector : GpuCollector Script := ⟨script, descriptors, span⟩
    let collector' : GpuCollector Frame := ⟨script.reenacted nameText, descriptors, span⟩
    have hsame : SameRun (Collector.update collector) (Collector.update collector') sink := by
      apply SameRun.of_alike
      apply GpuCollector.alike_update_of_readings
      · rfl
      · rfl
      · exact Script.count_reenacted nameText h.reported_le
      · exact fun _ hc => Script.device_reenacted h hc
    refine ⟨hsame, ?_, ?_⟩
    · intro bench hs hb
      obtain ⟨hresult, -, hsink, hlog⟩ := hsame
      have hlive : bench.live (GpuCollector.withLibrary ⟨script, descriptors, span⟩ ⟨⟩) =
          collector := congrArg (GpuCollector.mk · descriptors span) hs
      simp only [Bench.answer, hb]
      rw [hlive, hresult, hsink, hlog]
    · intro change
      apply SameRun.of_alike
      apply GpuCollector.alike_update_of_readings
      · rfl
      · rfl
      · exact script.count_withMemoryUtilizations change
      · exact fun _ _ i _ => script.device_withMemoryUtilizations change i

/-- A device whose name is no text but for the byte that its buffer leaves out. -/
def strayDevice : ScriptedDevice :=
  ⟨List.replicate 95 0x6e ++ [0xff], 50, 7, 60, ⟨100, 40, 60⟩, ⟨0, 0, 0, 0, 0⟩⟩

/-- A script with that device alone. -/
def strayScript : Script := ⟨0, 0, Utf8.encode "550.54.14", 0, none, [strayDevice]⟩

/-- The name is no text. -/
theorem decode?_strayDevice : Utf8.decode? strayDevice.name = none := by
  decide +kernel

private theorem orderly_strayScript : strayScript.Orderly := by
  constructor
  · decide
  · intro device hd text ht
    obtain rfl := List.mem_singleton.mp hd
    rw [decode?_strayDevice] at ht
    cases ht

/-- The collector over the library reads the name, one over a frame with an error for the name
complains about it. -/
theorem log_ne_strayScript :
    strayScript.Orderly ∧
    ∃ collector collector',
      GpuCollector.create strayScript defaultNamespace none = .ok collector ∧
      GpuCollector.create (strayScript.reenacted plainText) defaultNamespace none =
        .ok collector' ∧
      ((Collector.update collector).perform Collected.empty).log ≠
        ((Collector.update collector').perform Collected.empty).log := by
  obtain ⟨collector, hmade⟩ := GpuCollector.exists_create_default strayScript none
  obtain ⟨collector', hmade'⟩ :=
    GpuCollector.exists_create_default (strayScript.reenacted plainText) none
  refine ⟨orderly_strayScript, collector, collector', hmade, hmade', ?_⟩
  obtain ⟨descriptors, -, rfl⟩ := GpuCollector.exists_of_create_eq_ok hmade
  obtain ⟨descriptors', -, rfl⟩ := GpuCollector.exists_of_create_eq_ok hmade'
  have hname : strayDevice.answers.name.isOk = true := by decide +kernel
  have hname' : (strayDevice.reenacted plainText).answers.name.isOk = false := by decide +kernel
  intro he
  have hlength := congrArg List.length he
  rw [Activity.perform_log, Activity.perform_log, GpuCollector.trace_update_empty,
    GpuCollector.trace_update_empty, GpuCollector.events_updateCourse_one rfl,
    GpuCollector.events_updateCourse_one rfl] at hlength
  change (GpuCollector.account _ 0 (.ok strayDevice.answers)).length =
    (GpuCollector.account _ 0 (.ok (strayDevice.reenacted plainText).answers)).length at hlength
  rw [GpuCollector.length_account_ok, GpuCollector.length_account_ok, hname, hname'] at hlength
  cases hlength

/-- In the reenactment the device has the name that its buffer keeps. -/
theorem update_reenacted_strayScript :
    strayScript.Orderly ∧
    ∃ collector collector',
      GpuCollector.create strayScript defaultNamespace none = .ok collector ∧
      GpuCollector.create (strayScript.reenacted nameText) defaultNamespace none =
        .ok collector' ∧
      SameRun (Collector.update collector) (Collector.update collector') Collected.empty := by
  obtain ⟨collector, hmade⟩ := GpuCollector.exists_create_default strayScript none
  obtain ⟨collector', hmade'⟩ :=
    GpuCollector.exists_create_default (strayScript.reenacted nameText) none
  obtain ⟨hsame, -⟩ := (update_reenacted orderly_strayScript defaultNamespace none).2 collector
    collector' hmade hmade' Collected.empty
  exact ⟨orderly_strayScript, collector, collector', hmade, hmade', hsame⟩

end GpuTelemetry.Vendor
