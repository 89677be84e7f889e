import Mathlib.Data.List.Basic
import TypedEnv.Proofs.Decimal.Marks
import TypedEnv.Proofs.Value.Inference

/-!
# Written values are read back

Numbers, truth values and strings are read back from their texts, by the rule
of their own kind and, as far as the text of one kind is none of another, by
the inference of a kind.  A list is read back unless an item has a comma, and a
text that is read as a list is always the text of that list.
-/

namespace TypedEnv

theorem infer_of_inferNumber? {text : String} {value : Value} (nonempty : text ≠ "")
    (found : inferNumber? text = some value) : infer text = .ok value := by
  rw [infer, if_neg (by simpa using nonempty), found]

theorem inferNumber?_of_int {text : String} {number : Int64}
    (reads : Decimal.int64? text.toList = some number) :
    inferNumber? text = some (.int number) := by
  simp [inferNumber?, reads]

theorem inferNumber?_of_uint {text : String} {number : UInt64}
    (notInt : Decimal.int64? text.toList = none)
    (reads : Decimal.uint64? text.toList = some number) :
    inferNumber? text = some (.uint number) := by
  simp [inferNumber?, notInt, reads]

theorem inferNumber?_of_float {text : String} {number : Decimal.Binary64}
    (noLiteral : Decimal.NoLiteral text.toList)
    (reads : Decimal.Binary64.ofText? text.toList = some number) :
    inferNumber? text = some (.float number) := by
  simp [inferNumber?, Decimal.int64?_eq_none noLiteral, Decimal.uint64?_eq_none noLiteral, reads]

theorem ne_empty_of_reads {α : Type} {read : List Char → Option α} {text : String} {value : α}
    (reads : read text.toList = some value) (emptyFails : read [] = none) : text ≠ "" := by
  rintro rfl
  rw [String.toList_empty, emptyFails] at reads
  cases reads

theorem bool?_boolText (truth : Bool) : bool? (Value.boolText truth) = some truth := by
  cases truth <;> rfl

/-- The words for truth values consist of letters or of digits. -/
theorem bool?_eq_none {text : String} {c d : Char} (member : c ∈ text.toList)
    (noLetter : c.isAlpha = false) (memberToo : d ∈ text.toList) (noDigit : d.isDigit = false) :
    bool? text = none := by
  have unlisted : ∀ words : List String,
      words.all (fun word => word.toList.all Char.isAlpha || word.toList.all Char.isDigit) = true →
      ¬ words.contains text = true := by
    intro words uniform listed
    have isWord := List.all_eq_true.mp uniform text (List.contains_iff_mem.mp listed)
    rcases Bool.or_eq_true_iff.mp isWord with letters | digits
    · rw [List.all_eq_true.mp letters c member] at noLetter
      cases noLetter
    · rw [List.all_eq_true.mp digits d memberToo] at noDigit
      cases noDigit
  rw [bool?, if_neg (unlisted _ (by decide)), if_neg (unlisted _ (by decide))]

/-- A text that is inferred as a string is that string. -/
theorem eq_of_infer_string {raw text : String} (inferred : infer raw = .ok (.string text)) :
    text = raw := by
  have kept : parseAs .string raw = .ok (.string text) := parseAs_of_infer inferred
  cases kept
  rfl

namespace Value

theorem infer_render_int (number : Int64) : infer (render (.int number)) = .ok (.int number) :=
  have reads := Decimal.int64?_intText number
  infer_of_inferNumber? (ne_empty_of_reads reads rfl) (inferNumber?_of_int reads)

/-- An unsigned number is inferred from its text when it is too large for a signed one. -/
theorem infer_render_uint {number : UInt64} (large : Int64.maxValue.toInt < number.toNat) :
    infer (render (.uint number)) = .ok (.uint number) :=
  have reads := Decimal.uint64?_natText number
  infer_of_inferNumber? (ne_empty_of_reads reads rfl)
    (inferNumber?_of_uint (Decimal.int64?_natText_eq_none large) reads)

theorem infer_render_float (number : Decimal.Binary64) :
    infer (render (.float number)) = .ok (.float number) := by
  have text : (render (.float number)).toList = number.text .general := String.toList_ofList
  have reads : Decimal.Binary64.ofText? (render (.float number)).toList = some number := by
    rw [text]
    exact Decimal.Binary64.ofText?_text .general number
  have noLiteral : Decimal.NoLiteral (render (.float number)).toList := by
    rw [text]
    exact Decimal.Binary64.noLiteral_text .general number
  exact infer_of_inferNumber? (ne_empty_of_reads reads rfl) (inferNumber?_of_float noLiteral reads)

theorem infer_render_bool (truth : Bool) : infer (render (.bool truth)) = .ok (.bool truth) := by
  cases truth <;> rfl

/-- The kinds whose values are read back from their texts without exception. -/
def IsPlain (kind : Kind) : Prop :=
  kind = .int ∨ kind = .uint ∨ kind = .float ∨ kind = .bool ∨ kind = .string

theorem parseAs_render {value : Value} (isPlain : IsPlain value.kind) :
    parseAs value.kind value.render = .ok value := by
  cases value with
  | int number =>
      exact valueOr_eq_ok_iff.mpr (by rw [render, Decimal.int64?_intText, Option.map_some])
  | uint number =>
      exact valueOr_eq_ok_iff.mpr (by rw [render, Decimal.uint64?_natText, Option.map_some])
  | float number =>
      exact valueOr_eq_ok_iff.mpr (by
        rw [render, Decimal.Binary64.render, String.toList_ofList,
          Decimal.Binary64.ofText?_text, Option.map_some])
  | bool truth => exact valueOr_eq_ok_iff.mpr (by rw [render, bool?_boolText, Option.map_some])
  | string text => rfl
  | duration span => simp [IsPlain, kind] at isPlain
  | url address => simp [IsPlain, kind] at isPlain
  | stringList items => simp [IsPlain, kind] at isPlain

theorem toList_render_stringList (items : List String) :
    (render (.stringList items)).toList = [','].intercalate (items.map String.toList) := by
  rw [render, String.toList_intercalate]
  rfl

/-- A text that is read as a list is the text of that list. -/
theorem render_stringList_splitOn (text : String) :
    render (.stringList ((text.toList.splitOn ',').map String.ofList)) = text := by
  apply String.toList_inj.mp
  rw [toList_render_stringList, List.map_map]
  simp [Function.comp_def, List.intercalate_splitOn]

/-- A list is read back when no item has a comma. -/
theorem parseAs_stringList_render {items : List String} (nonempty : items ≠ [])
    (noComma : ∀ item ∈ items, ',' ∉ item.toList) :
    parseAs .stringList (render (.stringList items)) = .ok (.stringList items) := by
  have apart : ∀ text ∈ items.map String.toList, ',' ∉ text := by
    intro text member
    obtain ⟨item, isItem, rfl⟩ := List.mem_map.mp member
    exact noComma item isItem
  rw [parseAs, toList_render_stringList,
    List.splitOn_intercalate ',' apart (by simpa using nonempty), List.map_map]
  simp [Function.comp_def]

/-- Inferred numbers, truth values and strings are inferred again from their texts, values of
these kinds are read again by the rule of their kind, and the texts of lists are the texts that
are read as them. -/
theorem reads_back :
    (∀ raw value, infer raw = .ok value →
      (value.kind = .int ∨ value.kind = .float ∨ value.kind = .bool ∨ value.kind = .string ∨
        ∃ number : UInt64, value = .uint number ∧ Int64.maxValue.toInt < number.toNat) →
      infer value.render = .ok value) ∧
    (∀ value : Value, IsPlain value.kind → parseAs value.kind value.render = .ok value) ∧
    (∀ text, ∃ value, parseAs .stringList text = .ok value ∧ value.render = text) ∧
    ∀ items : List String, items ≠ [] → (∀ item ∈ items, ',' ∉ item.toList) →
      parseAs .stringList (render (.stringList items)) = .ok (.stringList items) := by
  refine ⟨?_, ?_, ?_, ?_⟩
  · intro raw value inferred kind
    cases value with
    | int number => exact infer_render_int number
    | uint number =>
        rcases kind with isInt | isFloat | isBool | isString | ⟨other, same, large⟩
        · cases isInt
        · cases isFloat
        · cases isBool
        · cases isString
        · cases same
          exact infer_render_uint large
    | float number => exact infer_render_float number
    | bool truth => exact infer_render_bool truth
    | string text =>
        obtain rfl := eq_of_infer_string inferred
        exact inferred
    | duration span => simp [Value.kind] at kind
    | url address => simp [Value.kind] at kind
    | stringList items => simp [Value.kind] at kind
  · intro value isPlain
    exact parseAs_render isPlain
  · intro text
    exact ⟨_, rfl, render_stringList_splitOn text⟩
  · intro items nonempty noComma
    exact parseAs_stringList_render nonempty noComma

theorem reads_back_extremes :
    (infer "-0x8000000000000000" = .ok (.int Int64.minValue) ∧
      infer (render (.int Int64.minValue)) = .ok (.int Int64.minValue)) ∧
    (infer "+0xFFFFFFFFFFFFFFFF" = .ok (.uint 18446744073709551615) ∧
      infer (render (.uint 18446744073709551615)) = .ok (.uint 18446744073709551615)) ∧
    (IsPlain (kind (.float (.infinite true))) ∧
      parseAs .float (render (.float (.infinite true))) = .ok (.float (.infinite true))) ∧
    (["a b", "", "#"] ≠ [] ∧ (∀ item ∈ ["a b", "", "#"], ',' ∉ item.toList) ∧
      parseAs .stringList (render (.stringList ["a b", "", "#"])) =
        .ok (.stringList ["a b", "", "#"])) :=
  have minimum : infer "-0x8000000000000000" = .ok (.int Int64.minValue) := by decide +kernel
  have maximum : infer "+0xFFFFFFFFFFFFFFFF" = .ok (.uint 18446744073709551615) := by
    decide +kernel
  have isPlain : IsPlain (kind (.float (.infinite true))) := .inr (.inr (.inl rfl))
  have noComma : ∀ item ∈ ["a b", "", "#"], ',' ∉ item.toList := by decide +kernel
  ⟨⟨minimum, reads_back.1 _ _ minimum (.inl rfl)⟩,
    ⟨maximum, reads_back.1 _ _ maximum
      (.inr (.inr (.inr (.inr ⟨_, rfl, by decide +kernel⟩))))⟩,
    ⟨isPlain, reads_back.2.1 _ isPlain⟩,
    ⟨by simp, noComma, reads_back.2.2.2 _ (by simp) noComma⟩⟩

end Value

end TypedEnv
