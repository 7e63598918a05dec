import GpuTelemetry.Text.Utf8

/-!
# The bytes of texts are UTF-8

The bytes that a text is encoded by are accepted without a fault and decode to the text. A
character is read from its first byte on: which ranges that byte asks for, and that the other bytes
lie in them.
-/

namespace GpuTelemetry.Utf8

variable {start position : Nat} {pending : List (Nat × Nat)} {rest : List UInt8}

private theorem toNat_ofNat {n : Nat} (h : n < 256) : (UInt8.ofNat n).toNat = n := by
  rw [UInt8.toNat_ofNat']
  exact Nat.mod_eq_of_lt h

/-- A byte that begins a character asks for its followers. -/
theorem scan_first {n : Nat} (hn : n < 256) (h : followers n = some pending) :
    scan start position [] (UInt8.ofNat n :: rest) =
      scan position (position + 1) pending rest := by
  rw [scan, toNat_ofNat hn, h]

/-- A byte in the range that is asked for is passed. -/
theorem scan_next {low high n : Nat} (hn : n < 256) (hlow : low ≤ n) (hhigh : n ≤ high) :
    scan start position ((low, high) :: pending) (UInt8.ofNat n :: rest) =
      scan start (position + 1) pending rest := by
  rw [scan, toNat_ofNat hn, if_pos ⟨hlow, hhigh⟩]

/-- So is a byte with six bits of a character where any is asked for. -/
theorem scan_tail (n : Nat) :
    scan start position ((0x80, 0xBF) :: pending) (UInt8.ofNat (n % 0x40 + 0x80) :: rest) =
      scan start (position + 1) pending rest := by
  have hn : n % 0x40 < 0x40 := Nat.mod_lt n (by decide)
  exact scan_next (by omega) (by omega) (by omega)

private theorem followers_of_le {first : Nat} (h : first ≤ 0x7F) : followers first = some [] := by
  rw [followers, if_pos h]

private theorem followers_of_two (first : Nat) (hlow : 0xC2 ≤ first) (hhigh : first ≤ 0xDF) :
    followers first = some [(0x80, 0xBF)] := by
  rw [followers, if_neg (by omega), if_neg (by omega), if_pos hhigh]

/-- The first of three bytes asks for two; the second one is short of its usual range behind two
values of the first. -/
theorem exists_followers_of_three (first second : Nat) (hlow : 0xE0 ≤ first)
    (hhigh : first ≤ 0xEF) (hsecond : 0x80 ≤ second ∧ second ≤ 0xBF)
    (hleast : first = 0xE0 → 0xA0 ≤ second) (hmost : first = 0xED → second ≤ 0x9F) :
    ∃ low high, followers first = some [(low, high), (0x80, 0xBF)] ∧
      low ≤ second ∧ second ≤ high := by
  by_cases hE0 : first = 0xE0
  · exact ⟨0xA0, 0xBF, by rw [hE0]; rfl, hleast hE0, hsecond.2⟩
  · by_cases hED : first = 0xED
    · exact ⟨0x80, 0x9F, by rw [hED]; rfl, hsecond.1, hmost hED⟩
    · refine ⟨0x80, 0xBF, ?_, hsecond⟩
      rw [followers, if_neg (by omega), if_neg (by omega), if_neg (by omega), if_neg hE0,
        if_neg hED, if_pos hhigh]

/-- The first of four bytes asks for three; the second one is short of its usual range behind two
values of the first. -/
theorem exists_followers_of_four (first second : Nat) (hlow : 0xF0 ≤ first)
    (hhigh : first ≤ 0xF4) (hsecond : 0x80 ≤ second ∧ second ≤ 0xBF)
    (hleast : first = 0xF0 → 0x90 ≤ second) (hmost : first = 0xF4 → second ≤ 0x8F) :
    ∃ low high, followers first = some [(low, high), (0x80, 0xBF), (0x80, 0xBF)] ∧
      low ≤ second ∧ second ≤ high := by
  by_cases hF0 : first = 0xF0
  · exact ⟨0x90, 0xBF, by rw [hF0]; rfl, hleast hF0, hsecond.2⟩
  · by_cases hF4 : first = 0xF4
    · exact ⟨0x80, 0x8F, by rw [hF4]; rfl, hsecond.1, hmost hF4⟩
    · refine ⟨0x80, 0xBF, ?_, hsecond⟩
      rw [followers, if_neg (by omega), if_neg (by omega), if_neg (by omega), if_neg (by omega),
        if_neg (by omega), if_neg (by omega), if_neg hF0, if_pos (by omega)]

/-- Behind the bytes of a character the next one may begin. -/
theorem exists_scan_utf8EncodeChar (c : Char) (start position : Nat) (rest : List UInt8) :
    ∃ start' position', scan start position [] (String.utf8EncodeChar c ++ rest) =
      scan start' position' [] rest := by
  have hvalid : c.val.toNat < 0xD800 ∨ 0xDFFF < c.val.toNat ∧ c.val.toNat < 0x110000 := c.valid
  rw [String.utf8EncodeChar]
  generalize c.val.toNat = v at hvalid
  by_cases h1 : v ≤ 0x7F
  · rw [if_pos h1]
    exact ⟨_, _, scan_first (by omega) (followers_of_le h1)⟩
  · rw [if_neg h1]
    by_cases h2 : v ≤ 0x7FF
    · rw [if_pos h2]
      have hfollow := followers_of_two (v / 64 % 0x20 + 0xC0) (by omega) (by omega)
      exact ⟨_, _, (scan_first (by omega) hfollow).trans (scan_tail v)⟩
    · rw [if_neg h2]
      by_cases h3 : v ≤ 0xFFFF
      · rw [if_pos h3]
        obtain ⟨low, high, hfollow, hlow, hhigh⟩ := exists_followers_of_three
          (v / 4096 % 0x10 + 0xE0) (v / 64 % 0x40 + 0x80)
          (by omega) (by omega) (by omega) (by omega) (by omega)
        exact ⟨_, _, (scan_first (by omega) hfollow).trans
          ((scan_next (by omega) hlow hhigh).trans (scan_tail v))⟩
      · rw [if_neg h3]
        obtain ⟨low, high, hfollow, hlow, hhigh⟩ := exists_followers_of_four
          (v / 262144 % 0x08 + 0xF0) (v / 4096 % 0x40 + 0x80)
          (by omega) (by omega) (by omega) (by omega) (by omega)
        exact ⟨_, _, (scan_first (by omega) hfollow).trans
          ((scan_next (by omega) hlow hhigh).trans ((scan_tail (v / 64)).trans (scan_tail v)))⟩

/-- The bytes of a text are those of its characters. -/
theorem encode_eq_flatMap (s : String) : encode s = s.toList.flatMap String.utf8EncodeChar := by
  have hs : s.toUTF8 = s.toList.utf8Encode := by
    rw [String.toUTF8_eq_toByteArray, ← String.toByteArray_ofList, String.ofList_toList]
  rw [encode, hs, List.utf8Encode, List.data_toByteArray, List.toList_toArray]

/-- The bytes of a joined text are those of its parts. -/
theorem flatMap_encode (texts : List String) :
    texts.flatMap encode = encode (String.join texts) := by
  rw [encode_eq_flatMap, String.toList_join, List.flatMap_assoc]
  congr 1
  funext s
  exact encode_eq_flatMap s

/-- The bytes of a text have no fault. -/
theorem fault?_encode (s : String) : fault? (encode s) = none := by
  have hscan : ∀ (cs : List Char) (start position : Nat),
      scan start position [] (cs.flatMap String.utf8EncodeChar) = none := by
    intro cs
    induction cs with
    | nil => exact fun _ _ => rfl
    | cons c cs ih =>
      intro start position
      obtain ⟨start', position', h⟩ := exists_scan_utf8EncodeChar c start position
        (cs.flatMap String.utf8EncodeChar)
      rw [List.flatMap_cons, h]
      exact ih start' position'
  rw [encode_eq_flatMap]
  exact hscan s.toList 0 0

/-- The bytes of a text decode to it. -/
theorem decode?_encode (s : String) : decode? (encode s) = some s := by
  have hbytes : (⟨(encode s).toArray⟩ : ByteArray) = s.toByteArray := by
    rw [encode, String.toUTF8_eq_toByteArray, Array.toArray_toList]
  rw [decode?, hbytes, String.fromUTF8?, dif_pos s.isValidUTF8]
  rfl

end GpuTelemetry.Utf8
