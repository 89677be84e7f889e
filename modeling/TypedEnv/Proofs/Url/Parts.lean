import Mathlib
import TypedEnv.Proofs.Text.Characters
import TypedEnv.Proofs.Text.Split
import TypedEnv.Proofs.Url.Percent
import TypedEnv.Url.Reader

/-!
# Schemes, queries and fragments that are read again

The scheme ends before the first colon, the query begins at the first question
mark and the fragment at the first number sign; none of the parts before
contains these characters in its encoded form.
-/

namespace TypedEnv.Url

section Scheme

/-- What every scheme that was read has in common. -/
structure IsScheme (scheme : List Char) : Prop where
  letter : scheme.head?.map Char.isAlpha = some true
  chars : ∀ c ∈ scheme, isSchemeChar c = true
  lower : ∀ c ∈ scheme, c.toLower = c

theorem isSchemeChar_toLower {c : Char} (allowed : isSchemeChar c = true) :
    isSchemeChar c.toLower = true := by
  by_cases isLetter : c.isAlpha = true
  · have alphanumeric : c.toLower.isAlphanum = true := by
      rw [Text.isAlphanum_toLower, Char.isAlphanum, isLetter, Bool.true_or]
    simp [isSchemeChar, alphanumeric]
  · rwa [Text.toLower_of_not_isAlpha (by simpa using isLetter)]

theorem isScheme_readScheme? {text scheme rest : List Char}
    (found : readScheme? text = some (scheme, rest)) : IsScheme scheme := by
  unfold readScheme? at found
  split at found
  · next letter _ =>
      cases found
      obtain ⟨first, isHead, isAlpha⟩ := Option.map_eq_some_iff.mp letter
      refine ⟨?_, ?_, ?_⟩
      · cases text with
        | nil => cases isHead
        | cons c others =>
            cases isHead
            have isScheme : isSchemeChar first = true := by
              simp [isSchemeChar, Char.isAlphanum, isAlpha]
            simp [isScheme, Char.isAlpha_toLower_eq_isAlpha, isAlpha]
      · intro c member
        obtain ⟨d, inText, rfl⟩ := List.mem_map.mp member
        exact isSchemeChar_toLower (List.mem_takeWhile_imp inText)
      · intro c member
        obtain ⟨d, -, rfl⟩ := List.mem_map.mp member
        exact Char.toLower_toLower_eq_toLower d
  · cases found

theorem readScheme?_text {scheme : List Char} (isScheme : IsScheme scheme) (rest : List Char) :
    readScheme? (scheme ++ ':' :: rest) = some (scheme, rest) := by
  have stop : ∀ c ∈ (':' :: rest).head?, isSchemeChar c = false := by
    rintro c ⟨⟩
    decide
  obtain ⟨taken, left⟩ := Text.takeWhile_append_stop isScheme.chars stop
  have lower : scheme.map Char.toLower = scheme := by
    rw [List.map_congr_left (g := id), List.map_id]
    exact isScheme.lower
  have letter : (scheme ++ ':' :: rest).head?.map Char.isAlpha = some true := by
    have isLetter := isScheme.letter
    cases scheme with
    | nil => cases isLetter
    | cons c others => exact isLetter
  rw [readScheme?, letter, left, taken, lower]
  rfl

theorem visible_scheme {scheme : List Char} (isScheme : IsScheme scheme) :
    ∀ c ∈ scheme, 32 < c.toNat := by
  have invisible : ∀ n < 33, isSchemeChar (Char.ofNat n) = false := by decide
  intro c member
  apply Nat.lt_of_not_le
  intro small
  have outside := invisible c.toNat (by omega)
  rw [Char.ofNat_toNat, isScheme.chars c member] at outside
  cases outside

end Scheme

section Tail

/-- A part of an address with the mark before it. -/
def marked (mark : Char) : Option (List Char) → List Char
  | none => []
  | some text => mark :: text

/-- The query and the fragment with their marks. -/
def tailText (query fragment : Option (List Char)) : List Char :=
  marked '?' query ++ marked '#' fragment

theorem head?_marked {mark : Char} {part : Option (List Char)} :
    ∀ c ∈ (marked mark part).head?, c = mark := by
  intro c isHead
  cases part with
  | none => cases isHead
  | some text =>
      cases isHead
      rfl

theorem mem_marked {mark c : Char} {part : Option (List Char)} (member : c ∈ marked mark part) :
    c = mark ∨ ∃ text ∈ part, c ∈ text := by
  cases part with
  | none => cases member
  | some text => exact (List.mem_cons.mp member).imp_right fun inText => ⟨text, rfl, inText⟩

/-- What every query and fragment that were read have in common. -/
structure IsTail (type : SchemeType) (query fragment : Option (List Char)) : Prop where
  query : ∀ text ∈ query, ∀ c ∈ text, isQueryEncoded type.isSpecial c = false
  fragment : ∀ text ∈ fragment, ∀ c ∈ text, isFragmentEncoded c = false

variable {type : SchemeType} {scheme : List Char} {authority : Option Authority} {path : Path}
  {query fragment : Option (List Char)}

theorem isTail_finish (text : List Char) :
    IsTail type (finish type scheme authority path text).query
      (finish type scheme authority path text).fragment := by
  have queryEscapes : ∀ special, ∀ c ∈ escapeChars, isQueryEncoded special c = false := by
    intro special
    apply Text.forall_mem_of_all
    cases special <;> decide
  have fragmentEscapes : ∀ c ∈ escapeChars, isFragmentEncoded c = false :=
    Text.forall_mem_of_all (by decide)
  constructor
  · intro query isQuery
    dsimp only [finish] at isQuery
    split at isQuery
    · cases isQuery
      exact fun c member => kept_of_mem_percentEncode (queryEscapes _) member
    · cases isQuery
  · intro fragment isFragment
    dsimp only [finish] at isFragment
    split at isFragment
    · cases isFragment
    · cases isFragment
      exact fun c member => kept_of_mem_percentEncode fragmentEscapes member

theorem finish_tailText (isTail : IsTail type query fragment) :
    finish type scheme authority path (tailText query fragment) =
      { scheme, authority, path, query, fragment } := by
  have inside : ∀ c ∈ marked '?' query, (c != '#') = true := by
    intro c member
    rw [bne_iff_ne]
    rintro rfl
    rcases mem_marked member with same | ⟨text, isQuery, inQuery⟩
    · cases same
    · have kept := isTail.query text isQuery _ inQuery
      simp [isQueryEncoded] at kept
  have stop : ∀ c ∈ (marked '#' fragment).head?, (c != '#') = false := by
    intro c isHead
    rw [head?_marked c isHead]
    rfl
  obtain ⟨taken, left⟩ := Text.takeWhile_append_stop inside stop
  have queryKept : ∀ text ∈ query, percentEncode (isQueryEncoded type.isSpecial) text = text :=
    fun text isQuery => percentEncode_eq_self (isTail.query text isQuery)
  have fragmentKept : ∀ text ∈ fragment, percentEncode isFragmentEncoded text = text :=
    fun text isFragment => percentEncode_eq_self (isTail.fragment text isFragment)
  rw [finish, tailText, taken, left]
  cases query with
  | none =>
      cases fragment with
      | none => rfl
      | some fragment => simp [marked, fragmentKept fragment rfl]
  | some query =>
      cases fragment with
      | none => simp [marked, queryKept query rfl]
      | some fragment => simp [marked, queryKept query rfl, fragmentKept fragment rfl]

theorem head?_tailText : ∀ c ∈ (tailText query fragment).head?, c = '?' ∨ c = '#' := by
  intro c isHead
  cases query with
  | some query =>
      cases isHead
      exact .inl rfl
  | none => exact .inr (head?_marked c isHead)

/-- A query or a fragment is found in everything that is left after a path. -/
theorem eq_nil_of_finish {text : List Char} (starts : ∀ c ∈ text.head?, c = '?' ∨ c = '#')
    (noQuery : (finish type scheme authority path text).query = none)
    (noFragment : (finish type scheme authority path text).fragment = none) : text = [] := by
  cases text with
  | nil => rfl
  | cons c rest =>
      rcases starts c rfl with rfl | rfl
      · simp [finish] at noQuery
      · simp [finish] at noFragment

theorem visible_tailText (isTail : IsTail type query fragment) :
    ∀ c ∈ tailText query fragment, 32 < c.toNat := by
  intro c member
  rcases List.mem_append.mp member with inQuery | inFragment
  · rcases mem_marked inQuery with rfl | ⟨text, isQuery, inText⟩
    · decide
    · have kept := isTail.query text isQuery c inText
      simp only [isQueryEncoded, Bool.or_eq_false_iff] at kept
      apply visible_of_kept kept.1.1
      rintro rfl
      simp at kept
  · rcases mem_marked inFragment with rfl | ⟨text, isFragment, inText⟩
    · decide
    · have kept := isTail.fragment text isFragment c inText
      simp only [isFragmentEncoded, Bool.or_eq_false_iff] at kept
      apply visible_of_kept kept.1
      rintro rfl
      simp at kept

theorem splitPathText_tailText {text : List Char} (inPath : ∀ c ∈ text, c ≠ '?' ∧ c ≠ '#') :
    splitPathText (text ++ tailText query fragment) = (text, tailText query fragment) := by
  have inside : ∀ c ∈ text, (c != '?' && c != '#') = true := by
    intro c member
    simpa using inPath c member
  have stop : ∀ c ∈ (tailText query fragment).head?, (c != '?' && c != '#') = false := by
    intro c isHead
    rcases head?_tailText c isHead with rfl | rfl
    · rfl
    · rfl
  obtain ⟨taken, left⟩ := Text.takeWhile_append_stop inside stop
  rw [splitPathText, taken, left]

end Tail

theorem not_break_of_le {c : Char} (large : 32 ≤ c.toNat) :
    (c != '\t' && c != '\n' && c != '\r') = true := by
  have controls : ∀ d ∈ ['\t', '\n', '\r'], d.toNat < 32 := Text.forall_mem_of_all (by decide)
  have other : c ∉ ['\t', '\n', '\r'] := by
    intro isControl
    have small := controls c isControl
    omega
  simpa [and_assoc] using other

theorem getLast?_significant (text : List Char) : (significant text).getLast? ≠ some ' ' := by
  rw [significant]
  generalize text.dropWhile (fun c => decide (c.toNat ≤ 32)) = started
  cases trimmed : started.reverse.dropWhile fun c => decide (c.toNat ≤ 32) with
  | nil => simp
  | cons last others =>
      have visible : ¬ last.toNat ≤ 32 := by
        have head :=
          List.head?_dropWhile_not (fun c : Char => decide (c.toNat ≤ 32)) started.reverse
        rw [trimmed] at head
        simpa using head
      have kept : [last].filter (fun c => c != '\t' && c != '\n' && c != '\r') = [last] := by
        apply List.filter_eq_self.mpr
        intro c member
        obtain rfl := List.mem_singleton.mp member
        exact not_break_of_le (by omega)
      rw [List.reverse_cons, List.filter_append, kept, List.getLast?_concat]
      rintro ⟨⟩
      exact visible (by decide)

/-- A text is significant as a whole when blanks stand only inside. -/
theorem significant_eq_self {text : List Char} (first : ∀ c ∈ text.head?, 32 < c.toNat)
    (last : ∀ c ∈ text.getLast?, 32 < c.toNat) (inside : ∀ c ∈ text, 32 ≤ c.toNat) :
    significant text = text := by
  have keep : ∀ side : List Char, (∀ c ∈ side.head?, 32 < c.toNat) →
      side.dropWhile (fun c => c.toNat ≤ 32) = side := by
    intro side visible
    cases side with
    | nil => rfl
    | cons c others =>
        have large := visible c rfl
        rw [List.dropWhile_cons_of_neg (by simpa using large)]
  have reversed : ∀ c ∈ text.reverse.head?, 32 < c.toNat := by
    rw [List.head?_reverse]
    exact last
  rw [significant, keep text first, keep text.reverse reversed, List.reverse_reverse,
    List.filter_eq_self]
  exact fun c member => not_break_of_le (inside c member)

end TypedEnv.Url
