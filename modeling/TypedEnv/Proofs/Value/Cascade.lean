import TypedEnv.Proofs.Value.Literal

/-!
# The order of inference

Apart from strings, which are any text, and from the kinds of numbers among
themselves, no text is read by the rules of two kinds.  So inference gives the
first kind that reads a text in every order that keeps the numbers as they are
and the strings last: durations and addresses may be tried at any time.
-/

namespace TypedEnv

namespace Kind

/-- The kinds that are tried before durations, in their order. -/
def numbers : List Kind := [.int, .uint, .float, .bool]

/-- Whether the rule of a kind reads a text. -/
def accepts (kind : Kind) (text : String) : Bool :=
  (parseAs kind text).isOk

/-- The orders in which kinds can be tried: all kinds of inferred values once, the numbers in
their order and the strings last. -/
structure IsCascade (order : List Kind) : Prop where
  perm : order.Perm [.int, .uint, .float, .bool, .duration, .url, .string]
  numbers : numbers.Sublist order
  last : order.getLast? = some .string

end Kind

section Accepted

variable {text : String} {kind : Kind}

theorem accepts_iff : kind.accepts text = true ↔ ∃ value, parseAs kind text = .ok value := by
  rw [Kind.accepts]
  cases parseAs kind text with
  | ok value => simp [Except.isOk, Except.toBool]
  | error failure => simp [Except.isOk, Except.toBool]

theorem isOk_valueOr {reason : Mismatch} {found : Option Value} :
    (valueOr text reason found).isOk = found.isSome := by
  cases found <;> rfl

theorem accepts_duration_iff : Kind.duration.accepts text = true ↔
    ∃ span, Duration.read? text.toList = .ok (some span) := by
  rw [Kind.accepts, parseAs]
  cases Duration.read? text.toList with
  | error reason => simp [Outcome.ofAbort, bind, Except.bind, Except.isOk, Except.toBool]
  | ok span =>
      cases span with
      | none => simp [Outcome.ofAbort, bind, Except.bind, isOk_valueOr]
      | some span => simp [Outcome.ofAbort, bind, Except.bind, isOk_valueOr]

theorem hasSchemeMark_of_accepts (nonempty : text ≠ "") (accepted : Kind.url.accepts text = true) :
    hasSchemeMark text.toList = true := by
  obtain ⟨value, accepted⟩ := accepts_iff.mp accepted
  rw [parseAs, if_neg (mt String.isEmpty_iff.mp nonempty)] at accepted
  split at accepted
  · next marked => exact marked
  · cases accepted

/-- The number that is inferred is of the first kind that reads the text. -/
theorem map_kind_inferNumber? (text : String) :
    (inferNumber? text).map Value.kind = Kind.numbers.find? (·.accepts text) := by
  simp only [Kind.numbers, List.find?_cons, List.find?_nil, Kind.accepts, parseAs, isOk_valueOr,
    Option.isSome_map, inferNumber?]
  cases Decimal.int64? text.toList with
  | some number => rfl
  | none =>
      cases Decimal.uint64? text.toList with
      | some number => rfl
      | none =>
          cases Decimal.Binary64.ofText? text.toList with
          | some number => rfl
          | none => cases bool? text <;> rfl

theorem not_accepts_of_inferNumber? (notFound : inferNumber? text = none)
    (isNumber : kind ∈ Kind.numbers) : ¬ kind.accepts text = true := by
  have first := map_kind_inferNumber? text
  rw [notFound, Option.map_none, eq_comm, List.find?_eq_none] at first
  exact first kind isNumber

theorem sublist_of_inferNumber? {value : Value} (found : inferNumber? text = some value)
    (isNumber : kind ∈ Kind.numbers) (accepted : kind.accepts text = true) :
    kind = value.kind ∨ [value.kind, kind].Sublist Kind.numbers := by
  have first := map_kind_inferNumber? text
  rw [found, Option.map_some, eq_comm, List.find?_eq_some_iff_append] at first
  obtain ⟨-, before, after, isSplit, refused⟩ := first
  rw [isSplit] at isNumber ⊢
  rcases List.mem_append.mp isNumber with earlier | others
  · have isRefused := refused kind earlier
    rw [accepted] at isRefused
    cases isRefused
  · refine (List.mem_cons.mp others).imp_right fun later => ?_
    exact ((List.singleton_sublist.mpr later).cons_cons _).trans (List.sublist_append_right _ _)

end Accepted

section Colon

variable {text : String} (colon : ':' ∈ text.toList)
include colon

theorem inferNumber?_of_colon : inferNumber? text = none := by
  have noInt : Decimal.int64? text.toList = none := by
    rw [Option.eq_none_iff_forall_ne_some]
    intro number found
    obtain ⟨literal, written, -⟩ := Decimal.Literal.int64?_eq_some_iff.mp found
    exact written.no_colon colon
  have noUint : Decimal.uint64? text.toList = none := by
    rw [Option.eq_none_iff_forall_ne_some]
    intro number found
    obtain ⟨literal, written, -⟩ := Decimal.Literal.uint64?_eq_some_iff.mp found
    exact written.no_colon colon
  have noFloat : Decimal.Binary64.ofText? text.toList = none :=
    Decimal.Binary64.ofText?_eq_none colon (by decide) colon (by decide)
  have noBool : bool? text = none := bool?_eq_none colon rfl colon rfl
  simp [inferNumber?, noInt, noUint, noFloat, noBool]

theorem duration_read?_of_colon : Duration.read? text.toList = .ok none :=
  Duration.read?_of_not_isSpanText fun isSpanText =>
    absurd (isSpanText.chars ':' colon) (by decide)

end Colon

section First

variable {text : String} {kind : Kind}

theorem isSpanText_of_accepts (accepted : Kind.duration.accepts text = true) :
    Span.IsSpanText text.toList := by
  obtain ⟨span, found⟩ := accepts_duration_iff.mp accepted
  by_contra other
  rw [Duration.read?_of_not_isSpanText other] at found
  cases found

/-- Of the kinds that are not read from all texts, only numbers that come later read a text from
which a value is inferred. -/
theorem sublist_of_infer {value : Value} (nonempty : text ≠ "") (inferred : infer text = .ok value)
    (listed : kind ∈ Kind.numbers ∨ kind = .duration ∨ kind = .url)
    (accepted : kind.accepts text = true) :
    kind = value.kind ∨ [value.kind, kind].Sublist Kind.numbers := by
  rw [infer, if_neg (mt String.isEmpty_iff.mp nonempty)] at inferred
  cases number : inferNumber? text with
  | some found =>
      rw [number] at inferred
      cases inferred
      rcases listed with isNumber | rfl | rfl
      · exact sublist_of_inferNumber? number isNumber accepted
      · rw [inferNumber?_of_isSpanText (isSpanText_of_accepts accepted)] at number
        cases number
      · have marked := hasSchemeMark_of_accepts nonempty accepted
        rw [inferNumber?_of_colon (colon_of_hasSchemeMark marked)] at number
        cases number
  | none =>
      rw [number] at inferred
      rcases listed with isNumber | rfl | rfl
      · exact absurd accepted (not_accepts_of_inferNumber? number isNumber)
      · obtain ⟨span, found⟩ := accepts_duration_iff.mp accepted
        rw [found] at inferred
        cases inferred
        exact .inl rfl
      · have marked := hasSchemeMark_of_accepts nonempty accepted
        rw [duration_read?_of_colon (colon_of_hasSchemeMark marked), marked] at inferred
        exact .inl (kind_of_parseUrl (Outcome.ofError_eq_ok_iff.mp inferred)).symm

end First

namespace Kind.IsCascade

variable {order before after : List Kind} {kind earlier : Kind} (isCascade : IsCascade order)
include isCascade

theorem nodup : order.Nodup :=
  isCascade.perm.nodup_iff.mpr (by decide)

theorem filter_numbers : order.filter (· ∈ Kind.numbers) = Kind.numbers := by
  have kept : Kind.numbers.Sublist (order.filter (· ∈ Kind.numbers)) :=
    isCascade.numbers.filter (· ∈ Kind.numbers)
  refine (kept.eq_of_length ?_).symm
  exact ((isCascade.perm.filter (· ∈ Kind.numbers)).length_eq).symm

/-- What is tried before a kind is neither this kind nor the strings, which are tried last. -/
theorem of_mem_before (isSplit : order = before ++ kind :: after) (member : earlier ∈ before) :
    earlier ≠ kind ∧ (earlier ∈ Kind.numbers ∨ earlier = .duration ∨ earlier = .url) := by
  have apart := isCascade.nodup
  have last := isCascade.last
  have listed := isCascade.perm.subset (isSplit ▸ List.mem_append_left _ member)
  rw [isSplit, List.nodup_append] at apart
  rw [isSplit, List.getLast?_append_of_ne_nil _ (List.cons_ne_nil _ _)] at last
  refine ⟨apart.2.2 earlier member kind List.mem_cons_self, ?_⟩
  have notString := apart.2.2 earlier member .string (List.mem_of_getLast? last)
  simp only [Kind.numbers, List.mem_cons, List.not_mem_nil, or_false] at listed ⊢
  tauto

/-- Numbers keep their order. -/
theorem not_sublist_of_mem_before (isSplit : order = before ++ kind :: after)
    (member : earlier ∈ before) : ¬ [kind, earlier].Sublist Kind.numbers := by
  intro reversed
  have isNumber : kind ∈ Kind.numbers ∧ earlier ∈ Kind.numbers :=
    ⟨reversed.subset (by simp), reversed.subset (by simp)⟩
  have inOrder : [earlier, kind].Sublist order := by
    rw [isSplit]
    exact (List.singleton_sublist.mpr member).append
      (List.singleton_sublist.mpr List.mem_cons_self)
  have kept := inOrder.filter (· ∈ Kind.numbers)
  rw [isCascade.filter_numbers] at kept
  have irreversible : ∀ first ∈ Kind.numbers, ∀ second ∈ Kind.numbers,
      ([first, second].filter (· ∈ Kind.numbers)).Sublist Kind.numbers →
        ¬ [second, first].Sublist Kind.numbers := by
    decide
  exact irreversible earlier isNumber.2 kind isNumber.1 kept reversed

/-- What is inferred from a text is read by the first kind that accepts it. -/
theorem find?_of_infer {text : String} {value : Value} (nonempty : text ≠ "")
    (inferred : infer text = .ok value) :
    order.find? (·.accepts text) = some value.kind := by
  have inOrder : value.kind ∈ order := by
    apply isCascade.perm.symm.subset
    have notList := kind_of_infer inferred
    revert notList
    cases value.kind <;> simp
  obtain ⟨before, after, isSplit⟩ := List.append_of_mem inOrder
  refine List.find?_eq_some_iff_append.mpr
    ⟨accepts_iff.mpr ⟨value, parseAs_of_infer inferred⟩, before, after, isSplit, ?_⟩
  intro earlier member
  rw [Bool.not_eq_true', Bool.eq_false_iff]
  intro accepted
  obtain ⟨other, listed⟩ := isCascade.of_mem_before isSplit member
  rcases sublist_of_infer nonempty inferred listed accepted with same | reversed
  · exact other same
  · exact isCascade.not_sublist_of_mem_before isSplit member reversed

end Kind.IsCascade

section Addresses

variable {text : String} {cause : InferError}

/-- With the mark, a text is inferred as an address or not at all. -/
theorem infer_of_hasSchemeMark (marked : hasSchemeMark text.toList = true) :
    infer text = parseAs .url text := by
  have colon := colon_of_hasSchemeMark marked
  have nonempty : ¬ text.isEmpty = true := by
    intro isEmpty
    rw [String.isEmpty_iff.mp isEmpty] at marked
    cases marked
  rw [infer, parseAs, if_neg nonempty, inferNumber?_of_colon colon, duration_read?_of_colon colon,
    if_neg nonempty]
  rw [if_pos marked, if_pos marked]

/-- Only what has the mark of an address can be refused. -/
theorem hasSchemeMark_of_infer_eq_error (refused : infer text = .error (.error cause)) :
    hasSchemeMark text.toList = true := by
  rw [infer] at refused
  split at refused
  · cases refused
  · split at refused
    · cases refused
    · split at refused
      · cases refused
      · cases refused
      · split at refused
        · next marked => exact marked
        · cases refused

theorem infer_eq_error_iff : infer text = .error (.error cause) ↔
    hasSchemeMark text.toList = true ∧ parseAs .url text = .error (.error cause) := by
  constructor
  · intro refused
    have marked := hasSchemeMark_of_infer_eq_error refused
    rw [infer_of_hasSchemeMark marked] at refused
    exact ⟨marked, refused⟩
  · rintro ⟨marked, refused⟩
    rw [infer_of_hasSchemeMark marked, refused]

end Addresses

/-- Of the words for truth values, only digits are numbers too. -/
theorem eq_of_accepts_bool {text : String} (word : Kind.bool.accepts text = true)
    (number : ∃ kind ∈ [Kind.int, .uint, .float], kind.accepts text = true) :
    text = "0" ∨ text = "1" := by
  have words : text ∈ ["1", "t", "T", "TRUE", "true", "True"] ++
      ["0", "f", "F", "FALSE", "false", "False"] := by
    rw [Kind.accepts, parseAs, isOk_valueOr, Option.isSome_map, bool?] at word
    split at word
    · next listed => exact List.mem_append_left _ (List.contains_iff_mem.mp listed)
    · split at word
      · next listed => exact List.mem_append_right _ (List.contains_iff_mem.mp listed)
      · cases word
  have digits : ∀ word ∈ ["1", "t", "T", "TRUE", "true", "True"] ++
      ["0", "f", "F", "FALSE", "false", "False"],
      (∃ kind ∈ [Kind.int, .uint, .float], kind.accepts word = true) → word = "0" ∨ word = "1" := by
    decide +kernel
  exact digits text words number

/-- Durations, addresses and numbers exclude each other, so a value is inferred by the first kind
that accepts the text, in whichever order of a cascade the kinds are tried.  Only addresses can be
refused. -/
theorem infers_first_accepted (text : String) :
    (Kind.duration.accepts text = true →
      (∀ kind ∈ [Kind.int, .uint, .float, .bool], ¬ kind.accepts text = true) ∧
        ¬ "://".toList <:+: text.toList) ∧
    (Kind.bool.accepts text = true →
      (∃ kind ∈ [Kind.int, .uint, .float], kind.accepts text = true) → text = "0" ∨ text = "1") ∧
    ("://".toList <:+: text.toList →
      ∀ kind ∈ [Kind.int, .uint, .float, .bool], ¬ kind.accepts text = true) ∧
    (∀ order, Kind.IsCascade order → text ≠ "" → ∀ value, infer text = .ok value →
      ∃ kind, order.find? (·.accepts text) = some kind ∧ parseAs kind text = .ok value) ∧
    (∀ cause, infer text = .error (.error cause) ↔
      "://".toList <:+: text.toList ∧ parseAs .url text = .error (.error cause)) ∧
    ∀ cause, infer text = .error (.error cause) → cause.text = text ∧ cause.reason.kind = .url := by
  refine ⟨?_, eq_of_accepts_bool, ?_, ?_, ?_, ?_⟩
  · intro accepted
    have isSpanText := isSpanText_of_accepts accepted
    refine ⟨fun kind => not_accepts_of_inferNumber? (inferNumber?_of_isSpanText isSpanText), ?_⟩
    intro marked
    exact absurd (isSpanText.chars ':' (marked.subset (by decide))) (by decide)
  · intro marked kind
    exact not_accepts_of_inferNumber? (inferNumber?_of_colon (marked.subset (by decide)))
  · intro order isCascade nonempty value inferred
    exact ⟨value.kind, isCascade.find?_of_infer nonempty inferred, parseAs_of_infer inferred⟩
  · intro cause
    exact infer_eq_error_iff.trans (and_congr_left' hasSchemeMark_eq_true_iff)
  · intro cause refused
    exact of_parseAs_eq_error (infer_eq_error_iff.mp refused).2

/-- A cascade in which addresses come first and durations stand between the integers. -/
def Kind.spreadOrder : List Kind :=
  [.url, .int, .duration, .uint, .float, .bool, .string]

theorem infers_first_accepted_spreadOrder :
    (Kind.duration.accepts " 1.5h 2ms" = true ∧ ¬ Kind.float.accepts " 1.5h 2ms" = true) ∧
    (Kind.bool.accepts "1" = true ∧ Kind.float.accepts "1" = true ∧ ("1" = "0" ∨ "1" = "1")) ∧
    ("://".toList <:+: "1://2".toList ∧ ¬ Kind.int.accepts "1://2" = true) ∧
    (Kind.IsCascade Kind.spreadOrder ∧
      infer "18446744073709551615" = .ok (.uint 18446744073709551615) ∧
      ∃ kind, Kind.spreadOrder.find? (·.accepts "18446744073709551615") = some kind ∧
        parseAs kind "18446744073709551615" = .ok (.uint 18446744073709551615)) ∧
    infer "1://2" = .error (.error ⟨"1://2", .badUrl .relative⟩) ∧
      Mismatch.kind (.badUrl .relative) = .url := by
  have span : Kind.duration.accepts " 1.5h 2ms" = true := by decide +kernel
  have word : Kind.bool.accepts "1" = true ∧ Kind.float.accepts "1" = true := by decide +kernel
  have marked : "://".toList <:+: "1://2".toList := by decide
  have isCascade : Kind.IsCascade Kind.spreadOrder := ⟨by decide, by decide, rfl⟩
  have large : infer "18446744073709551615" = .ok (.uint 18446744073709551615) := by
    decide +kernel
  have refused : infer "1://2" = .error (.error ⟨"1://2", .badUrl .relative⟩) := by
    decide +kernel
  refine ⟨⟨span, ?_⟩, ⟨word.1, word.2, ?_⟩, ⟨marked, ?_⟩, ⟨isCascade, large, ?_⟩,
    refused, ?_⟩
  · exact ((infers_first_accepted " 1.5h 2ms").1 span).1 .float (by decide)
  · exact (infers_first_accepted "1").2.1 word.1 ⟨.float, by decide, word.2⟩
  · exact (infers_first_accepted "1://2").2.2.1 marked .int (by decide)
  · exact (infers_first_accepted "18446744073709551615").2.2.2.1 Kind.spreadOrder isCascade
      (by decide) _ large
  · exact ((infers_first_accepted "1://2").2.2.2.2.2 _ refused).2

end TypedEnv
