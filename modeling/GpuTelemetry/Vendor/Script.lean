import GpuTelemetry.Device.Basic
import GpuTelemetry.Text.Utf8
import GpuTelemetry.Vendor.Trouble

/-!
# Scripted vendor libraries

What every call to the vendor's library answers: a status code and, if that reports no trouble, a
value. Texts come as bytes in a buffer of fixed size and end at the first zero byte; bytes that
are not UTF-8 are a trouble of their own. Counting comes first, then each device by its handle.
-/

namespace GpuTelemetry.Vendor

/-- The status codes of the queries to one device. -/
structure DeviceCodes where
  /-- Of asking for the handle. -/
  handle : Nat
  /-- Of the name. -/
  name : Nat
  /-- Of the utilisation. -/
  utilization : Nat
  /-- Of the temperature. -/
  temperature : Nat
  /-- Of the memory. -/
  memory : Nat
  deriving DecidableEq, Repr

/-- The answers about one device. -/
structure ScriptedDevice where
  /-- The bytes of its name. -/
  name : List UInt8
  /-- How busy the device is, in percent. -/
  utilization : UInt32
  /-- How busy its memory is, in percent; nobody asks for it. -/
  memoryUtilization : UInt32
  /-- Its temperature in degrees Celsius. -/
  temperature : UInt32
  /-- Its memory. -/
  memory : MemoryUse
  /-- The status codes of the queries. -/
  codes : DeviceCodes
  deriving DecidableEq, Repr

/-- The answers to all calls. -/
structure Script where
  /-- The status code of opening the library. -/
  initCode : Nat
  /-- The status code of the driver version. -/
  versionCode : Nat
  /-- The bytes of the driver version. -/
  version : List UInt8
  /-- The status code of counting. -/
  countCode : Nat
  /-- The reported number of devices, if it is not the true one. -/
  count : Option Nat
  /-- The devices, by index. -/
  devices : List ScriptedDevice
  deriving DecidableEq, Repr

/-- The size of the buffer for a device name, with its closing zero byte. -/
def nameCapacity : Nat := 96

/-- The size of the buffer for a driver version, with its closing zero byte. -/
def versionCapacity : Nat := 80

/-- The text in a buffer that the given bytes were written to. -/
def bufferText (capacity : Nat) (bytes : List UInt8) : Except QueryError String :=
  match Utf8.decode? ((bytes.take (capacity - 1)).takeWhile (· ≠ 0)) with
  | some text => .ok text
  | none => .error Trouble.notUtf8.queryError

namespace ScriptedDevice

/-- The answers of a device behind its handle. -/
def answers (device : ScriptedDevice) : Device where
  name := (checked device.codes.name ()).bind fun () => bufferText nameCapacity device.name
  utilization := checked device.codes.utilization device.utilization
  temperature := checked device.codes.temperature device.temperature
  memory := checked device.codes.memory device.memory

end ScriptedDevice

namespace Script

/-- The driver version. -/
def driverVersion (script : Script) : Except QueryError String :=
  (checked script.versionCode ()).bind fun () => bufferText versionCapacity script.version

/-- The number of devices. -/
def deviceCount (script : Script) : Except QueryError Nat :=
  checked script.countCode (script.count.getD script.devices.length)

/-- The device with an index. An index past the last device is a wrong argument. -/
def device (script : Script) (index : Nat) : Except QueryError Device :=
  match script.devices[index]? with
  | none => .error Trouble.invalidArgument.queryError
  | some device => checked device.codes.handle device.answers

instance : DeviceLibrary Script where
  enumerate script := (script.deviceCount, script)
  device := device

end Script

end GpuTelemetry.Vendor
