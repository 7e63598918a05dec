import GpuTelemetry.Device.Basic

/-!
# Device benches

Libraries that live in memory. A frame has fixed devices, any of which may refuse any query, and
may refuse to be counted; a reel shows one frame after the other, moving on with every count and
staying with the last. Counts have no upper bound here: one of 32 bits tells the same number of
devices as long as there are fewer than 2 ^ 32.
-/

namespace GpuTelemetry

/-- A device with fixed answers. -/
structure BenchDevice where
  /-- The error of asking for the device, if it fails. -/
  handleError : Option QueryError
  /-- The answers of the device. -/
  answers : Device

/-- Devices that do not change. -/
structure Frame where
  /-- The devices, by index. -/
  devices : List BenchDevice
  /-- The error of counting, if it fails. -/
  countError : Option QueryError

namespace Frame

/-- A frame without devices. -/
def empty : Frame := ⟨[], none⟩

/-- A frame that cannot be counted. -/
def failing (error : QueryError) : Frame := ⟨[], some error⟩

/-- The number of devices, which has no upper bound. -/
def count (frame : Frame) : Except QueryError Nat :=
  frame.countError.elim (.ok frame.devices.length) .error

/-- The device with an index. -/
def device (frame : Frame) (index : Nat) : Except QueryError Device :=
  match frame.devices[index]? with
  | none => .error (.invalidArgument ("device index " ++ toString index ++ " out of range"))
  | some device => device.handleError.elim (.ok device.answers) .error

instance : DeviceLibrary Frame where
  enumerate frame := (frame.count, frame)
  device := device

end Frame

/-- A frame, and the count that is reported in place of its own. -/
structure Scene where
  /-- The devices. -/
  frame : Frame
  /-- The reported count, if it is not the number of devices. -/
  reported : Option Nat

/-- The reported count of a scene; a frame that cannot be counted reports its error. -/
def Scene.count (scene : Scene) : Except QueryError Nat :=
  scene.frame.count.map fun count => scene.reported.getD count

/-- A sequence of scenes. -/
structure Reel where
  /-- The scenes, in order. -/
  scenes : List Scene
  /-- How often the devices have been counted. -/
  counted : Nat

namespace Reel

/-- A reel that has not been counted yet. -/
def start (scenes : List Scene) : Reel := ⟨scenes, 0⟩

/-- The scene with a number; the last one stands for all later ones, an empty one if there is
none at all. -/
def scene (reel : Reel) (number : Nat) : Scene :=
  (reel.scenes[min number (reel.scenes.length - 1)]?).getD ⟨.empty, none⟩

/-- The scene that devices are read from: the one last counted, or the first. -/
def current (reel : Reel) : Scene := reel.scene (reel.counted - 1)

instance : DeviceLibrary Reel where
  enumerate reel := ((reel.scene reel.counted).count, { reel with counted := reel.counted + 1 })
  device reel index := reel.current.frame.device index

end Reel

end GpuTelemetry
