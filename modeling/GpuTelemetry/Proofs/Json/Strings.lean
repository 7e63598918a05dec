import GpuTelemetry.Json.StringBody

/-!
# Written strings read back

A writer escapes character by character, so the reader's law is one fact about a single written
character, whatever was taken before and whatever follows. From it a written string, its closing
quote and any further text read back as the string and the further text. Nothing is assumed about
the string: quotes, backslashes, control characters and all of Unicode may occur in it.
-/

namespace GpuTelemetry.Json

/-- Hexadecimal digits are written and read by the same table. -/
theorem hexValue?_digitChar : ∀ d, d < 16 → hexValue? (Nat.digitChar d) = some d := by
  decide

/-- Four digits of which the first two are zero give a number of two digits. -/
theorem fourDigits_digitChar {high low : Nat} (hh : high < 16) (hl : low < 16)
    (rest : List Char) :
    ∃ shorter, fourDigits ('0' :: '0' :: Nat.digitChar high :: Nat.digitChar low :: rest) =
      .ok ⟨(high * 16 + low, rest), shorter⟩ := by
  have hz : hexValue? '0' = some 0 := by decide
  refine ⟨by simp; omega, ?_⟩
  simp [fourDigits, hz, hexValue?_digitChar high hh, hexValue?_digitChar low hl]

/-- A letter behind a backslash stands for the character of the escape table. -/
theorem stringBody_simpleEscape {c d : Char} (hu : c ≠ 'u') (h : simpleEscape? c = some d)
    (taken rest : List Char) :
    stringBody taken ('\\' :: c :: rest) = stringBody (d :: taken) rest := by
  rw [stringBody, escape]
  · simp only [h]
  · exact hu

/-- The number of a control character stands for it. -/
theorem stringBody_control {c : Char} (hc : c.toNat < 0x20) (taken rest : List Char) :
    stringBody taken ('\\' :: 'u' :: '0' :: '0' :: Nat.digitChar (c.toNat / 16) ::
      Nat.digitChar (c.toNat % 16) :: rest) = stringBody (c :: taken) rest := by
  have hh : c.toNat / 16 < 16 := by omega
  have hl : c.toNat % 16 < 16 := by omega
  have hn : c.toNat / 16 * 16 + c.toNat % 16 = c.toNat := by omega
  have hlow : isLowSurrogate c.toNat = false := by
    simp only [isLowSurrogate, Bool.and_eq_false_iff, decide_eq_false_iff_not]
    omega
  have hhigh : isHighSurrogate c.toNat = false := by
    simp only [isHighSurrogate, Bool.and_eq_false_iff, decide_eq_false_iff_not]
    omega
  obtain ⟨shorter, hd⟩ := fourDigits_digitChar hh hl rest
  rw [stringBody, escape, hd]
  simp only [hn, hlow, hhigh, Bool.false_eq_true, if_false, Char.ofNat_toNat]

/-- Any other character stands for itself. -/
theorem stringBody_plain {c : Char} (hq : c ≠ '"') (hb : c ≠ '\\') (hc : ¬ c.toNat < 0x20)
    (taken rest : List Char) : stringBody taken (c :: rest) = stringBody (c :: taken) rest := by
  rw [stringBody, if_neg hc]
  · exact hq
  · exact hb

/-- A written character is read back. -/
theorem stringBody_writtenChar (c : Char) (taken rest : List Char) :
    stringBody taken (writtenChar c ++ rest) = stringBody (c :: taken) rest := by
  unfold writtenChar
  split
  case h_8 hq hb _ _ _ _ _ =>
    split
    case isTrue hc => exact stringBody_control hc taken rest
    case isFalse hc => exact stringBody_plain hq hb hc taken rest
  all_goals exact stringBody_simpleEscape (by decide) rfl taken rest

/-- A written body is read back behind what was taken before, up to its closing quote. -/
theorem stringBody_flatMap_writtenChar (cs taken rest : List Char) :
    stringBody taken (cs.flatMap writtenChar ++ '"' :: rest) =
      .ok (String.ofList (taken.reverse ++ cs), rest) := by
  induction cs generalizing taken with
  | nil => rw [List.flatMap_nil, List.nil_append, stringBody, List.append_nil]
  | cons c cs ih =>
    rw [List.flatMap_cons, List.append_assoc, stringBody_writtenChar, ih, List.reverse_cons,
      List.append_assoc, List.singleton_append]

/-- A written string begins with a quote, behind which the string itself is read back. -/
theorem exists_body_writeString (s : String) (rest : List Char) :
    ∃ body, writeString s ++ rest = '"' :: body ∧ stringBody [] body = .ok (s, rest) := by
  refine ⟨s.toList.flatMap writtenChar ++ '"' :: rest, ?_, ?_⟩
  · simp only [writeString, List.cons_append, List.append_assoc, List.nil_append]
  · rw [stringBody_flatMap_writtenChar, List.reverse_nil, List.nil_append, String.ofList_toList]

end GpuTelemetry.Json
