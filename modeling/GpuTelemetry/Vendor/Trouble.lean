import GpuTelemetry.Failure

/-!
# Troubles of the vendor library

The vendor's library answers every call with a status code, and the layer around it can fail in a
few further ways. Six of these troubles have a meaning of their own for callers; all others are
passed on in words.
-/

namespace GpuTelemetry.Vendor

/-- What can go wrong in a call to the vendor's library. -/
inductive Trouble where
  /-- The library has not been opened. -/
  | uninitialized
  /-- An argument is wrong. -/
  | invalidArgument
  /-- The device cannot do this. -/
  | notSupported
  /-- The caller may not do this. -/
  | noPermission
  /-- The library is open already. -/
  | alreadyInitialized
  /-- There is no such thing. -/
  | notFound
  /-- A buffer is too small; sometimes it is known how large it has to be. -/
  | insufficientSize (required : Option Nat)
  /-- The device has no power. -/
  | insufficientPower
  /-- There is no driver. -/
  | driverNotLoaded
  /-- Time is up. -/
  | timeout
  /-- The kernel sees an interrupt problem. -/
  | interruptIssue
  /-- A library is missing. -/
  | libraryNotFound
  /-- A function of the library is missing. -/
  | functionNotFound
  /-- The configuration memory of the device is damaged. -/
  | corruptedInfoRom
  /-- The device no longer answers. -/
  | gpuLost
  /-- The device has to be reset. -/
  | resetRequired
  /-- The operating system forbids it. -/
  | operatingSystem
  /-- Driver and library do not fit. -/
  | versionMismatch
  /-- The device is busy. -/
  | inUse
  /-- There is not enough memory. -/
  | insufficientMemory
  /-- There is nothing to answer. -/
  | noData
  /-- Virtual devices and error correction exclude each other. -/
  | vgpuEccNotSupported
  /-- The driver failed. -/
  | unknown
  /-- A value that has no meaning. -/
  | unexpectedVariant (value : Nat)
  /-- A text does not fit. -/
  | stringTooLong (limit actual : Nat)
  /-- A function of the library cannot be bound. -/
  | failedToLoadSymbol (reason : String)
  /-- A text is not UTF-8. -/
  | notUtf8
  /-- A text has a zero byte inside. -/
  | zeroByte
  /-- An event set cannot be given back. -/
  | setReleaseFailed
  /-- Bus information cannot be had. -/
  | getPciInfoFailed
  /-- Bus information cannot be handed over. -/
  | pciInfoToCFailed
  deriving DecidableEq, Repr

namespace Trouble

/-- The trouble that a status code reports; zero reports none. -/
def ofCode? : Nat → Option Trouble
  | 0 => none
  | 1 => some .uninitialized
  | 2 => some .invalidArgument
  | 3 => some .notSupported
  | 4 => some .noPermission
  | 5 => some .alreadyInitialized
  | 6 => some .notFound
  | 7 => some (.insufficientSize none)
  | 8 => some .insufficientPower
  | 9 => some .driverNotLoaded
  | 10 => some .timeout
  | 11 => some .interruptIssue
  | 12 => some .libraryNotFound
  | 13 => some .functionNotFound
  | 14 => some .corruptedInfoRom
  | 15 => some .gpuLost
  | 16 => some .resetRequired
  | 17 => some .operatingSystem
  | 18 => some .versionMismatch
  | 19 => some .inUse
  | 20 => some .insufficientMemory
  | 21 => some .noData
  | 22 => some .vgpuEccNotSupported
  | 999 => some .unknown
  | code => some (.unexpectedVariant code)

/-- The query error that callers see. -/
def queryError : Trouble → QueryError
  | .uninitialized => .uninitialized
  | .notSupported => .notSupported
  | .noPermission => .noPermission
  | .notFound => .notFound
  | .gpuLost => .gpuLost
  | .invalidArgument => .invalidArgument "rejected by NVML"
  | .alreadyInitialized => .library "NVML was already initialized"
  | .insufficientSize none => .library "an input argument is not large enough"
  | .insufficientSize (some required) =>
    .library ("an input argument is not large enough, needs to be at least " ++ toString required)
  | .insufficientPower => .library "device's external power cables are not properly attached"
  | .driverNotLoaded => .library "NVIDIA driver is not loaded"
  | .timeout => .library "the provided timeout was reached"
  | .interruptIssue => .library "NVIDIA kernel detected an interrupt issue with a device"
  | .libraryNotFound => .library "a shared library couldn't be found or loaded"
  | .functionNotFound => .library "a function couldn't be found in a shared library"
  | .corruptedInfoRom => .library "the infoROM is corrupted"
  | .resetRequired => .library "device requires a reset before it can be used again"
  | .operatingSystem =>
    .library "device control has been blocked by the operating system/cgroups"
  | .versionMismatch => .library "RM detects a driver/library version mismatch"
  | .inUse => .library "operation cannot be performed because the GPU is currently in use"
  | .insufficientMemory => .library "insufficient memory"
  | .noData => .library "no data"
  | .vgpuEccNotSupported =>
    .library
      "the requested vgpu operation is not available on the target device because ECC is enabled"
  | .unknown => .library "an internal driver error occured"
  | .unexpectedVariant value => .library ("unexpected enum variant value: " ++ toString value)
  | .stringTooLong limit actual =>
    .library ("max string length was " ++ toString limit ++ " but string length is " ++
      toString actual)
  | .failedToLoadSymbol reason => .library ("function symbol failed to load: " ++ reason)
  | .notUtf8 => .library "could not interpret string as utf-8"
  | .zeroByte => .library "nul byte inside string"
  | .setReleaseFailed => .library "a call to `EventSet.release_events()` failed"
  | .getPciInfoFailed => .library "a call to `Device.pci_info()` failed"
  | .pciInfoToCFailed => .library "a call to `PciInfo.try_into_c()` failed"

end Trouble

/-- A value, if the status code of the call reports no trouble. -/
def checked {α : Type} (code : Nat) (value : α) : Except QueryError α :=
  match Trouble.ofCode? code with
  | none => .ok value
  | some trouble => .error trouble.queryError

end GpuTelemetry.Vendor
