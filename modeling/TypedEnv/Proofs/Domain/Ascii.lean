import TypedEnv.Domain.Name
import TypedEnv.Proofs.Outcome
import TypedEnv.Proofs.Text.Characters
import TypedEnv.Proofs.Text.Split

/-!
# Names in ASCII form

The ASCII form of a domain name consists of ASCII characters that the mapping
leaves alone, and composition does not change it.  A name is its own ASCII form
when its labels are valid and none of them stands for another one.
-/

namespace TypedEnv.Domain

/-- The characters of names in ASCII form. -/
def isDomainChar (c : Char) : Bool :=
  c.toNat < 128 && c.toLower == c && !isDenied c

theorem isDomainChar_iff {c : Char} : isDomainChar c = true ↔
    c.toNat < 128 ∧ c.toLower = c ∧ isDenied c = false := by
  simp [isDomainChar, and_assoc]

theorem mapChar_domainChar {c : Char} (isDomain : isDomainChar c = true) :
    mapChar c = some [c] := by
  obtain ⟨ascii, lower, -⟩ := isDomainChar_iff.mp isDomain
  rw [mapChar, if_pos ascii, lower]

theorem mapText_domainChars {text : List Char} (domain : ∀ c ∈ text, isDomainChar c = true) :
    mapText text = some text := by
  have each : text.mapM mapChar = some (text.map ([·])) :=
    mapM_eq_some_map _ fun c member => mapChar_domainChar (domain c member)
  rw [mapText, each, Option.map_some, ← List.flatMap_def, List.flatMap_singleton']

section Composition

theorem start_le_first {start : Nat} {data : List Int} :
    ∀ block ∈ readClassBlocks start data, start ≤ block.first := by
  induction start, data using readClassBlocks.induct with
  | case1 start gap count combiningClass rest first induction =>
      intro block member
      rw [readClassBlocks] at member
      rcases List.mem_cons.mp member with rfl | later
      · exact Nat.le_add_right _ _
      · exact Nat.le_trans (Nat.le_add_right _ _) (induction block later)
  | case2 start data other =>
      intro block member
      rw [readClassBlocks] at member
      · cases member
      · exact other

theorem head_le_first {start : Nat} {data : List Int} :
    ∀ head ∈ (readClassBlocks start data).head?, ∀ block ∈ readClassBlocks start data,
      head.first ≤ block.first := by
  intro head isHead block member
  unfold readClassBlocks at isHead member
  split at isHead
  · cases isHead
    rcases List.mem_cons.mp member with rfl | later
    · exact Nat.le_refl _
    · exact start_le_first block later
  · cases isHead

theorem first_classBlocks : ∀ block ∈ classBlocks, 768 ≤ block.first := by
  have first : classBlocks.head?.map ClassBlock.first = some 768 := by decide +kernel
  obtain ⟨head, isHead, start⟩ := Option.map_eq_some_iff.mp first
  intro block member
  rw [← start]
  exact head_le_first head isHead block member

/-- No ASCII character combines with the letter before it. -/
theorem combiningClass_ascii {c : Char} (ascii : c.toNat < 128) : combiningClass c = 0 := by
  have missing : classBlocks.find? (fun block =>
      block.first ≤ c.toNat && c.toNat < block.first + block.count) = none := by
    apply List.find?_eq_none.mpr
    intro block member
    have start := first_classBlocks block member
    simp only [Bool.and_eq_true, decide_eq_true_eq, not_and]
    omega
  rw [combiningClass, missing]
  rfl

theorem decompose_ascii {text : List Char} (ascii : ∀ c ∈ text, c.toNat < 128) :
    decompose text = text := by
  have apart : text.flatMap decomposeChar = text := by
    rw [List.flatMap_congr (g := ([·])), List.flatMap_singleton']
    intro c member
    have small : c.toNat < 0xC0 := Nat.lt_trans (ascii c member) (by decide)
    exact if_pos small
  have reversed : ∀ done, text.foldl (fun reversed c => insertMark c reversed) done =
      text.reverse ++ done := by
    clear apart
    induction text with
    | nil => simp
    | cons c rest induction =>
        intro done
        have kept : insertMark c done = c :: done := by
          cases done with
          | nil => rfl
          | cons before others =>
              simp [insertMark, combiningClass_ascii (ascii c List.mem_cons_self)]
        rw [List.foldl_cons, kept,
          induction fun d member => ascii d (List.mem_cons_of_mem _ member)]
        simp
  rw [decompose, apart, reversed, List.append_nil, List.reverse_reverse]

theorem reversed_step_ascii {state : Composing} {c : Char} (ascii : c.toNat < 128) :
    (state.step c).reversed = c :: state.reversed := by
  have apart : ∀ letter, composePair? letter c = none := fun letter => if_pos (by omega)
  have uncomposed : (do
      let letter ← state.letter
      if state.isBlocked c then none else composePair? letter c) = none := by
    cases state.letter with
    | none => rfl
    | some letter => simp [apart]
  rw [Composing.step, uncomposed]
  dsimp only
  rw [if_pos (combiningClass_ascii ascii)]
  rfl

/-- Composition does not change a text of ASCII characters. -/
theorem compose_ascii {text : List Char} (ascii : ∀ c ∈ text, c.toNat < 128) :
    compose text = text := by
  have reversed : ∀ state : Composing, (text.foldl Composing.step state).reversed =
      text.reverse ++ state.reversed := by
    induction text with
    | nil => simp
    | cons c rest induction =>
        intro state
        rw [List.foldl_cons, induction fun d member => ascii d (List.mem_cons_of_mem _ member),
          reversed_step_ascii (ascii c List.mem_cons_self)]
        simp
  rw [compose, decompose_ascii ascii, reversed]
  simp [Composing.reversed]

end Composition

namespace Punycode

/-- The characters with which groups are written. -/
def digitChars : List Char := "abcdefghijklmnopqrstuvwxyz0123456789".toList

theorem digitChar_mem : ∀ digit < 36, digitChar digit ∈ digitChars := by
  decide

theorem threshold_le (bias position : Nat) : threshold bias position ≤ 26 := by
  unfold threshold
  split
  · omega
  · split
    · omega
    · omega

theorem digitChars_group {bias position distance : Nat} :
    ∀ c ∈ group bias position distance, c ∈ digitChars := by
  induction distance using Nat.strongRecOn generalizing position with
  | ind distance induction =>
      have least := one_le_threshold bias position
      have most := threshold_le bias position
      rw [group]
      split
      · intro c member
        obtain rfl := List.mem_singleton.mp member
        exact digitChar_mem _ (by omega)
      · intro c member
        rcases List.mem_cons.mp member with rfl | later
        · have range := Nat.mod_lt (distance - threshold bias position)
            (show 0 < 36 - threshold bias position by omega)
          exact digitChar_mem _ (by omega)
        · have smaller := Nat.div_le_self (distance - threshold bias position)
            (36 - threshold bias position)
          exact induction _ (by omega) c later

theorem digitChars_pass {basic point : Nat} {writer : Writer} {c : Char}
    (written : ∀ d ∈ writer.groups, d ∈ digitChars) :
    ∀ d ∈ (writer.pass basic point c).groups, d ∈ digitChars := by
  unfold Writer.pass
  split
  · exact written
  · split
    · intro d member
      rcases List.mem_append.mp member with old | new
      · exact written d old
      · exact digitChars_group d new
    · exact written

theorem digitChars_run {text : List Char} {basic next : Nat} {writer : Writer} {points : List Nat}
    (written : ∀ d ∈ writer.groups, d ∈ digitChars) :
    ∀ d ∈ Writer.run text basic next writer points, d ∈ digitChars := by
  induction points generalizing next writer with
  | nil => exact written
  | cons point rest induction =>
      rw [Writer.run]
      apply induction
      dsimp only
      have passed : ∀ before : Writer, (∀ d ∈ before.groups, d ∈ digitChars) →
          ∀ d ∈ (text.foldl (Writer.pass basic point) before).groups, d ∈ digitChars := by
        clear induction
        induction text with
        | nil => exact fun _ before => before
        | cons c others induction =>
            intro before digits
            exact induction _ (digitChars_pass digits)
      exact passed _ written

theorem of_mem_encode {text : List Char} {c : Char} (member : c ∈ encode text) :
    (c ∈ text ∧ c.toNat < 128) ∨ c = '-' ∨ c ∈ digitChars := by
  rw [encode] at member
  rcases List.mem_append.mp member with start | group
  · split at start
    · cases start
    · rcases List.mem_append.mp start with basic | hyphen
      · exact .inl (by simpa using basic)
      · exact .inr (.inl (List.mem_singleton.mp hyphen))
  · exact .inr (.inr (digitChars_run (by simp) c group))

end Punycode

/-- The rules for single labels, character by character. -/
theorem of_isLabelValid {label : List Char} (valid : isLabelValid label = true) :
    ∀ c ∈ label, isValid c = true ∧ isDenied c = false ∧ c ≠ '.' := by
  intro c member
  simp only [isLabelValid, Bool.and_eq_true, List.all_eq_true] at valid
  simpa [and_assoc] using valid.1.1 c member

theorem isDomainChar_of_isValid {c : Char} (ascii : c.toNat < 128) (valid : isValid c = true)
    (allowed : isDenied c = false) : isDomainChar c = true := by
  rw [isValid, mapChar, if_pos ascii] at valid
  exact isDomainChar_iff.mpr ⟨ascii, by simpa using valid, allowed⟩

theorem of_mem_encodeLabel {label : List Char} (valid : isLabelValid label = true) :
    ∀ c ∈ encodeLabel label, isDomainChar c = true ∧ c ≠ '.' := by
  have digits : ∀ c ∈ Punycode.digitChars, isDomainChar c = true ∧ c ≠ '.' :=
    Text.forall_mem_of_all (by decide)
  have mark : ∀ c ∈ asciiMark, isDomainChar c = true ∧ c ≠ '.' :=
    Text.forall_mem_of_all (by decide)
  have basic : ∀ c ∈ label, c.toNat < 128 → isDomainChar c = true ∧ c ≠ '.' := by
    intro c member ascii
    obtain ⟨isValid, allowed, notPoint⟩ := of_isLabelValid valid c member
    exact ⟨isDomainChar_of_isValid ascii isValid allowed, notPoint⟩
  intro c member
  rw [encodeLabel] at member
  split at member
  · next ascii =>
      rw [isAscii, List.all_eq_true] at ascii
      exact basic c member (by simpa using ascii c member)
  · rcases List.mem_append.mp member with inMark | inCode
    · exact mark c inMark
    · rcases Punycode.of_mem_encode inCode with ⟨inLabel, ascii⟩ | rfl | isDigit
      · exact basic c inLabel ascii
      · decide
      · exact digits c isDigit

/-- A name of valid labels that stand for themselves is its own ASCII form. -/
theorem toAscii?_labels {labels : List (List Char)} (nonempty : labels ≠ [])
    (domain : ∀ label ∈ labels, ∀ c ∈ label, isDomainChar c = true ∧ c ≠ '.')
    (unmarked : ∀ label ∈ labels, asciiMark.isPrefixOf label = false)
    (valid : labels.all (fun label => isLabelValid label &&
      (!labels.any (·.any isRightToLeft) || isDirected label)) = true) :
    toAscii? (['.'].intercalate labels) = some (['.'].intercalate labels) := by
  have chars : ∀ c ∈ ['.'].intercalate labels, isDomainChar c = true := by
    intro c member
    rcases Text.mem_intercalate member with rfl | ⟨label, isLabel, inLabel⟩
    · decide
    · exact (domain label isLabel c inLabel).1
  have ascii : ∀ c ∈ ['.'].intercalate labels, c.toNat < 128 :=
    fun c member => (isDomainChar_iff.mp (chars c member)).1
  have apart : (['.'].intercalate labels).splitOn '.' = labels := by
    apply List.splitOn_intercalate '.' _ nonempty
    intro label member inLabel
    exact (domain label member _ inLabel).2 rfl
  have decoded : labels.mapM decodeLabel? = some labels := by
    rw [mapM_eq_some_map id, List.map_id]
    intro label member
    rw [decodeLabel?, unmarked label member]
    rfl
  have encoded : labels.map encodeLabel = labels := by
    rw [List.map_congr_left (g := id), List.map_id]
    intro label member
    apply if_pos
    rw [isAscii, List.all_eq_true]
    intro c inLabel
    simpa using (isDomainChar_iff.mp (domain label member c inLabel).1).1
  rw [toAscii?, mapText_domainChars chars, Option.bind_eq_bind, Option.bind_some,
    compose_ascii ascii, apart, decoded, Option.bind_eq_bind, Option.bind_some]
  dsimp only
  rw [if_pos valid, encoded]
  rfl

theorem isAscii_of_unmarked {label : List Char}
    (unmarked : asciiMark.isPrefixOf (encodeLabel label) = false) : isAscii label = true := by
  rw [encodeLabel] at unmarked
  split at unmarked
  · next ascii => exact ascii
  · rw [List.isPrefixOf_iff_prefix.mpr (List.prefix_append _ _)] at unmarked
    cases unmarked

/-- What is known of a name that was brought into ASCII form. -/
theorem of_toAscii? {name form : List Char} (found : toAscii? name = some form) :
    (∀ c ∈ form, isDomainChar c = true) ∧
      ((∀ label ∈ form.splitOn '.', asciiMark.isPrefixOf label = false) →
        toAscii? form = some form) := by
  simp only [toAscii?, Option.bind_eq_bind, Option.bind_eq_some_iff] at found
  obtain ⟨mapped, -, labels, decoded, found⟩ := found
  split at found
  · next valid =>
      have isForm : ['.'].intercalate (labels.map encodeLabel) = form := Option.some_inj.mp found
      have chars : ∀ label ∈ labels.map encodeLabel, ∀ c ∈ label,
          isDomainChar c = true ∧ c ≠ '.' := by
        intro encoded member
        obtain ⟨label, isLabel, rfl⟩ := List.mem_map.mp member
        have isValid := List.all_eq_true.mp valid label isLabel
        exact of_mem_encodeLabel (Bool.and_eq_true_iff.mp isValid).1
      have nonempty : labels ≠ [] := by
        rintro rfl
        have sameLength := (mapM_eq_some_iff.mp decoded).length_eq
        exact List.splitOn_ne_nil _ _ (List.length_eq_zero_iff.mp sameLength)
      subst isForm
      constructor
      · intro c member
        rcases Text.mem_intercalate member with rfl | ⟨label, isLabel, inLabel⟩
        · decide
        · exact (chars label isLabel c inLabel).1
      · intro unmarked
        have apart : (['.'].intercalate (labels.map encodeLabel)).splitOn '.' =
            labels.map encodeLabel := by
          apply List.splitOn_intercalate '.' _ (by simpa using nonempty)
          intro label member inLabel
          exact (chars label member _ inLabel).2 rfl
        rw [apart] at unmarked
        -- No label was encoded, so the labels are those of the form itself.
        have same : labels.map encodeLabel = labels := by
          rw [List.map_congr_left (g := id), List.map_id]
          intro label isLabel
          exact if_pos (isAscii_of_unmarked (unmarked _ (List.mem_map_of_mem isLabel)))
        rw [same] at chars unmarked ⊢
        exact toAscii?_labels nonempty chars unmarked valid
  · cases found

end TypedEnv.Domain
