import GpuTelemetry.Text.Utf8

/-!
# Digests

The 64-bit FNV-1a digest of byte sequences. A digest of several texts ends each of them with a
byte that occurs in no UTF-8 text, so that the boundaries count.
-/

namespace GpuTelemetry.Digest

/-- The digest of no bytes. -/
def offset : UInt64 := 14695981039346656037

/-- The factor of every step. -/
def prime : UInt64 := 1099511628211

/-- The byte behind each text. -/
def separator : UInt8 := 0xFF

/-- Takes one byte in. -/
def step (digest : UInt64) (byte : UInt8) : UInt64 := (digest ^^^ byte.toUInt64) * prime

/-- The digest of a byte sequence. -/
def ofBytes (bytes : List UInt8) : UInt64 := bytes.foldl step offset

/-- The digest of texts in order, each ended by the separator. -/
def ofTexts (texts : List String) : UInt64 :=
  ofBytes (texts.flatMap fun text => Utf8.encode text ++ [separator])

end GpuTelemetry.Digest
