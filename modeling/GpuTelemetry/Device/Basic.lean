import GpuTelemetry.Failure

/-!
# Devices

A device library counts its devices and hands out each by its index. A device answers four
queries, each of which can fail on its own; asking for the device itself can fail too. Counting is
the one query that may change the state of a library.
-/

namespace GpuTelemetry

/-- Memory of a device, in bytes. -/
structure MemoryUse where
  /-- All there is. -/
  total : UInt64
  /-- What is taken. -/
  used : UInt64
  /-- What is left. -/
  free : UInt64
  deriving DecidableEq, Repr

/-- The answers of one device. -/
structure Device where
  /-- Its name. -/
  name : Except QueryError String
  /-- Its utilisation in percent. -/
  utilization : Except QueryError UInt32
  /-- Its temperature in degrees Celsius. -/
  temperature : Except QueryError UInt32
  /-- Its memory. -/
  memory : Except QueryError MemoryUse

/-- Device libraries with the state `L`. -/
class DeviceLibrary (L : Type) where
  /-- Counts the devices; devices are read from the state after the count. -/
  enumerate : L → Except QueryError Nat × L
  /-- The device with an index. -/
  device : L → Nat → Except QueryError Device

/-- A library of either of two kinds. -/
instance {L L' : Type} [DeviceLibrary L] [DeviceLibrary L'] : DeviceLibrary (L ⊕ L') where
  enumerate
    | .inl library => (DeviceLibrary.enumerate library).map id .inl
    | .inr library => (DeviceLibrary.enumerate library).map id .inr
  device
    | .inl library => DeviceLibrary.device library
    | .inr library => DeviceLibrary.device library

end GpuTelemetry
