/-!
# UTF-8

Which byte sequences are UTF-8, and where the others stop being it. A first byte fixes the ranges
of the bytes that must follow it; the fault of a sequence is the first character that breaks off,
with the number of its bytes that could still have begun a character.
-/

namespace GpuTelemetry.Utf8

/-- Why bytes are not UTF-8. -/
inductive Fault where
  /-- The bytes from `index` on begin no character; the first `length` of them could. -/
  | invalid (index length : Nat)
  /-- The bytes end inside the character at `index`. -/
  | incomplete (index : Nat)
  deriving DecidableEq, Repr

/-- The wording of a fault. -/
def Fault.message : Fault → String
  | .invalid index length => s!"invalid utf-8 sequence of {length} bytes from index {index}"
  | .incomplete index => s!"incomplete utf-8 byte sequence from index {index}"

/-- The ranges of the bytes that must follow a first byte, or none if it begins no character. -/
def followers (first : Nat) : Option (List (Nat × Nat)) :=
  let tail := (0x80, 0xBF)
  if first ≤ 0x7F then some []
  else if first < 0xC2 then none
  else if first ≤ 0xDF then some [tail]
  else if first = 0xE0 then some [(0xA0, 0xBF), tail]
  else if first = 0xED then some [(0x80, 0x9F), tail]
  else if first ≤ 0xEF then some [tail, tail]
  else if first = 0xF0 then some [(0x90, 0xBF), tail, tail]
  else if first ≤ 0xF3 then some [tail, tail, tail]
  else if first = 0xF4 then some [(0x80, 0x8F), tail, tail]
  else none

/-- Reads on at `position` inside the character that began at `start` and still wants bytes in
the ranges `pending`. -/
def scan : (start position : Nat) → (pending : List (Nat × Nat)) → List UInt8 → Option Fault
  | _, _, [], [] => none
  | start, _, _ :: _, [] => some (.incomplete start)
  | _, position, [], byte :: rest =>
    match followers byte.toNat with
    | none => some (.invalid position 1)
    | some pending => scan position (position + 1) pending rest
  | start, position, (low, high) :: pending, byte :: rest =>
    if low ≤ byte.toNat ∧ byte.toNat ≤ high then scan start (position + 1) pending rest
    else some (.invalid start (position - start))

/-- The first fault of a byte sequence, none if it is UTF-8. -/
def fault? (bytes : List UInt8) : Option Fault := scan 0 0 [] bytes

/-- The text that bytes encode, none if they are not UTF-8. -/
def decode? (bytes : List UInt8) : Option String := String.fromUTF8? ⟨bytes.toArray⟩

/-- The bytes of a text. -/
def encode (s : String) : List UInt8 := s.toUTF8.data.toList

end GpuTelemetry.Utf8
