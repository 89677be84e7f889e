import TypedEnv.Url.Percent

/-!
# Encoded texts

An encoded text has no character of its set left, so it is not changed when it
is encoded again.  This holds because no percent sign and no digit is in a set.
A text without percent signs is decoded to its own bytes.
-/

namespace TypedEnv.Url

/-- The characters of which encoded bytes are written. -/
def escapeChars : List Char := "%0123456789ABCDEF".toList

theorem hexDigit_mem : ∀ digit < 16, hexDigit digit ∈ escapeChars := by
  decide

theorem mem_encodeByte {byte : UInt8} {c : Char} (member : c ∈ encodeByte byte) :
    c ∈ escapeChars := by
  have range : byte.toNat < 256 := byte.toNat_lt
  simp only [encodeByte, List.mem_cons, List.not_mem_nil, or_false] at member
  rcases member with rfl | rfl | rfl
  · decide
  · exact hexDigit_mem _ (by omega)
  · exact hexDigit_mem _ (by omega)

/-- Blanks are the only characters without a form of their own that are not always encoded. -/
theorem visible_of_kept {c : Char} (kept : isControl c = false) (notBlank : c ≠ ' ') :
    32 < c.toNat := by
  have other : c.toNat ≠ 32 := fun blank => notBlank (Char.toNat_inj.mp blank)
  simp only [isControl, Bool.or_eq_false_iff, decide_eq_false_iff_not] at kept
  omega

theorem visible_of_isPathEncoded {c : Char} (kept : isPathEncoded c = false) : 32 < c.toNat := by
  have notBlank : c ≠ ' ' := by
    rintro rfl
    cases kept
  simp only [isPathEncoded, isFragmentEncoded, Bool.or_eq_false_iff] at kept
  exact visible_of_kept kept.1.1 notBlank

theorem visible_of_isUserEncoded {c : Char} (kept : isUserEncoded c = false) : 32 < c.toNat := by
  rw [isUserEncoded, Bool.or_eq_false_iff] at kept
  exact visible_of_isPathEncoded kept.1

variable {encoded : Char → Bool} {text : List Char}

theorem percentEncode_cons (c : Char) (rest : List Char) :
    percentEncode encoded (c :: rest) =
      (if encoded c then (String.utf8EncodeChar c).flatMap encodeByte else [c]) ++
        percentEncode encoded rest := by
  rw [percentEncode, List.flatMap_cons]
  rfl

theorem of_mem_percentEncode {c : Char} (member : c ∈ percentEncode encoded text) :
    (c ∈ text ∧ encoded c = false) ∨ c ∈ escapeChars := by
  obtain ⟨d, inText, inCode⟩ := List.mem_flatMap.mp member
  split at inCode
  · obtain ⟨byte, -, inByte⟩ := List.mem_flatMap.mp inCode
    exact .inr (mem_encodeByte inByte)
  · next isKept =>
      obtain rfl := List.mem_singleton.mp inCode
      exact .inl ⟨inText, by simpa using isKept⟩

theorem percentEncode_eq_self (kept : ∀ c ∈ text, encoded c = false) :
    percentEncode encoded text = text := by
  induction text with
  | nil => rfl
  | cons c rest induction =>
      rw [percentEncode_cons, kept c List.mem_cons_self,
        induction fun d member => kept d (List.mem_cons_of_mem _ member)]
      rfl

/-- No character of the set is left in an encoded text. -/
theorem kept_of_mem_percentEncode (escapes : ∀ c ∈ escapeChars, encoded c = false) {c : Char}
    (member : c ∈ percentEncode encoded text) : encoded c = false := by
  rcases of_mem_percentEncode member with ⟨-, isKept⟩ | isEscape
  · exact isKept
  · exact escapes c isEscape

/-- An encoded character has at least one byte. -/
theorem exists_utf8EncodeChar (c : Char) : ∃ byte rest, String.utf8EncodeChar c = byte :: rest := by
  apply List.exists_cons_of_ne_nil
  simp

theorem head?_percentEncode {c : Char} (isHead : c ∈ (percentEncode encoded text).head?) :
    c ∈ text.head? ∨ c = '%' := by
  cases text with
  | nil => cases isHead
  | cons first rest =>
      rw [percentEncode_cons] at isHead
      split at isHead
      · obtain ⟨byte, bytes, written⟩ := exists_utf8EncodeChar first
        rw [written] at isHead
        cases isHead
        exact .inr rfl
      · exact .inl isHead

theorem percentEncode_eq_nil_iff : percentEncode encoded text = [] ↔ text = [] := by
  cases text with
  | nil => simp [percentEncode]
  | cons first rest =>
      rw [percentEncode_cons]
      split
      · obtain ⟨byte, bytes, written⟩ := exists_utf8EncodeChar first
        simp [written, encodeByte]
      · simp

theorem getLast?_percentEncode {c : Char} (isLast : c ∈ (percentEncode encoded text).getLast?) :
    c ∈ text.getLast? ∨ c ∈ escapeChars := by
  induction text with
  | nil => cases isLast
  | cons first rest induction =>
      cases rest with
      | nil =>
          rcases of_mem_percentEncode (List.mem_of_mem_getLast? isLast) with ⟨inText, -⟩ | isEscape
          · obtain rfl := List.mem_singleton.mp inText
            exact .inl rfl
          · exact .inr isEscape
      | cons second others =>
          have nonempty : percentEncode encoded (second :: others) ≠ [] :=
            mt percentEncode_eq_nil_iff.mp (List.cons_ne_nil second others)
          obtain ⟨d, more, written⟩ := List.exists_cons_of_ne_nil nonempty
          rw [List.getLast?_cons_cons]
          apply induction
          rw [percentEncode_cons, List.getLast?_append] at isLast
          rw [written] at isLast ⊢
          simpa using isLast

theorem percentDecode_of_plain (plain : '%' ∉ text) :
    percentDecode text = text.flatMap String.utf8EncodeChar := by
  induction text with
  | nil => rfl
  | cons c rest induction =>
      have other : c ≠ '%' := fun same => plain (by simp [same])
      have restPlain : '%' ∉ rest := fun member => plain (List.mem_cons_of_mem _ member)
      rw [percentDecode.eq_3 _ _ (by rintro _ _ _ rfl; exact absurd rfl other), induction restPlain,
        List.flatMap_cons]

theorem fromUTF8?_utf8 (text : List Char) :
    String.fromUTF8? ⟨(text.flatMap String.utf8EncodeChar).toArray⟩ =
      some (String.ofList text) := by
  have bytes : (⟨(text.flatMap String.utf8EncodeChar).toArray⟩ : ByteArray) =
      (String.ofList text).toByteArray := by
    rw [String.toByteArray_ofList, List.utf8Encode]
    exact ByteArray.ext List.data_toByteArray.symm
  rw [bytes, String.fromUTF8?, dif_pos (String.ofList text).isValidUTF8]
  rfl

/-- A text without percent signs stands for its own characters. -/
theorem fromUTF8?_percentDecode (plain : '%' ∉ text) :
    String.fromUTF8? ⟨(percentDecode text).toArray⟩ = some (String.ofList text) := by
  rw [percentDecode_of_plain plain, fromUTF8?_utf8]

end TypedEnv.Url
