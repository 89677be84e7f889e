import Mathlib.Data.List.TakeWhile
import TypedEnv.Proofs.Decimal.Digits
import TypedEnv.Proofs.Outcome
import TypedEnv.Proofs.Text.Split
import TypedEnv.Url.Ipv6

/-!
# Version 6 addresses that are read again

Every number of an address is written with at most four digits, and the zeros
that are left out are the only ones, so eight numbers are read as they were
written.
-/

namespace TypedEnv.Url

section Digits

theorem hexValue?_digitChar : ∀ digit < 16, (hexValue? (Nat.digitChar digit)).isSome = true := by
  decide

theorem digitValue?_digitChar :
    ∀ digit < 16, Decimal.digitValue? 16 (Nat.digitChar digit) = some digit := by
  decide

/-- Digits in base sixteen are read back. -/
theorem ofDigits?_toDigits (n : Nat) : Decimal.ofDigits? 16 (Nat.toDigits 16 n) = some n := by
  induction n using Nat.strongRecOn with
  | ind n induction =>
      rw [Nat.toDigits_eq_if (by decide)]
      split
      · next small => simp [Decimal.ofDigits?, digitValue?_digitChar n small]
      · have front := induction (n / 16) (by omega)
        have last := digitValue?_digitChar (n % 16) (Nat.mod_lt _ (by decide))
        have sum : n / 16 * 16 + n % 16 = n := by omega
        rw [Decimal.ofDigits?] at front ⊢
        simp [List.foldlM_append, front, last, sum]

/-- A number is less than the power of the radix for the number of its digits. -/
theorem ofDigits?_lt {radix value : Nat} {text : List Char}
    (reads : Decimal.ofDigits? radix text = some value) : value < radix ^ text.length := by
  have fold : ∀ start, text.foldlM
      (fun value c => (Decimal.digitValue? radix c).map (value * radix + ·)) start =
        some value → value < (start + 1) * radix ^ text.length := by
    clear reads
    induction text with
    | nil =>
        intro start same
        cases same
        simp
    | cons c rest induction =>
        intro start reads
        rw [List.foldlM_cons] at reads
        obtain ⟨next, isNext, reads⟩ := Option.bind_eq_some_iff.mp reads
        obtain ⟨digit, isDigit, rfl⟩ := Option.map_eq_some_iff.mp isNext
        have small : digit < radix := by
          have filtered := Option.filter_eq_some_iff.mp isDigit
          simpa using filtered.2
        calc value < (start * radix + digit + 1) * radix ^ rest.length := induction _ reads
          _ ≤ ((start + 1) * radix) * radix ^ rest.length :=
            Nat.mul_le_mul_right _ (by rw [Nat.add_mul]; omega)
          _ = (start + 1) * radix ^ (rest.length + 1) := by rw [Nat.mul_assoc, Nat.pow_succ']
  simpa using fold 0 reads

end Digits

theorem digitChar_ne_colon : ∀ digit < 16, Nat.digitChar digit ≠ ':' := by
  decide

theorem exists_toDigits (n : Nat) : ∃ c more, c ≠ ':' ∧ Nat.toDigits 16 n = c :: more := by
  obtain ⟨c, more, isCons⟩ := List.exists_cons_of_ne_nil (Nat.toDigits_ne_nil (n := n) (b := 16))
  have member : c ∈ Nat.toDigits 16 n := by
    rw [isCons]
    exact List.mem_cons_self
  obtain ⟨digit, range, rfl⟩ := Decimal.exists_digitChar_of_mem (by decide) member
  exact ⟨_, more, digitChar_ne_colon digit range, isCons⟩

section Fields

variable {count piece : Nat} {gapSeen : Bool}

/-- The digits of a number of sixteen bits end before a colon. -/
theorem takeWhile_toDigits (rest : List Char) (small : piece < 65536)
    (ends : ∀ c ∈ rest.head?, c = ':') :
    ((Nat.toDigits 16 piece ++ rest).take 4).takeWhile (fun c => (hexValue? c).isSome) =
      Nat.toDigits 16 piece := by
  have short : (Nat.toDigits 16 piece).length ≤ 4 :=
    (Nat.length_toDigits_le_iff (by decide) (by decide)).mpr small
  have isHex : ∀ c ∈ Nat.toDigits 16 piece, (hexValue? c).isSome = true := by
    intro c member
    obtain ⟨digit, range, rfl⟩ := Decimal.exists_digitChar_of_mem (by decide) member
    exact hexValue?_digitChar digit range
  have stops : (rest.take (4 - (Nat.toDigits 16 piece).length)).takeWhile
      (fun c => (hexValue? c).isSome) = [] := by
    cases rest with
    | nil => simp
    | cons c others =>
        obtain rfl := ends c rfl
        cases 4 - (Nat.toDigits 16 piece).length with
        | zero => rfl
        | succ => rfl
  rw [List.take_append, List.take_of_length_le short, List.takeWhile_append_of_pos isHex, stops,
    List.append_nil]

theorem readFields?_last (room : count ≠ 8) (small : piece < 65536) :
    readFields? count gapSeen (Nat.toDigits 16 piece) = some [.piece piece] := by
  have written := takeWhile_toDigits [] small (by simp)
  obtain ⟨c, more, other, isCons⟩ := exists_toDigits piece
  have value : Decimal.ofDigits? 16 (c :: more) = some piece := by
    rw [← isCons, ofDigits?_toDigits]
  rw [isCons, List.append_nil] at written
  rw [isCons, readFields?.eq_3 _ _ _ _ other, written, value, List.drop_length]
  simp [room]

theorem readFields?_next {next : Char} {more : List Char} (room : count ≠ 8)
    (small : piece < 65536) :
    readFields? count gapSeen (Nat.toDigits 16 piece ++ ':' :: next :: more) =
      (readFields? (count + 1) gapSeen (next :: more)).map (.piece piece :: ·) := by
  have written := takeWhile_toDigits (':' :: next :: more) small (by simp)
  obtain ⟨c, others, other, isCons⟩ := exists_toDigits piece
  have value : Decimal.ofDigits? 16 (c :: others) = some piece := by
    rw [← isCons, ofDigits?_toDigits]
  have left : (c :: (others ++ ':' :: next :: more)).drop (c :: others).length =
      ':' :: next :: more := by simp
  have shorter : (next :: more).length < (c :: (others ++ ':' :: next :: more)).length := by
    simp only [List.length_cons, List.length_append]
    omega
  rw [isCons, List.cons_append] at written ⊢
  rw [readFields?.eq_3 _ _ _ _ other, written, value, left]
  dsimp only
  rw [if_neg (by simp [room])]
  exact if_pos shorter

end Fields

theorem piecesText_cons (piece next : Nat) (rest : List Nat) :
    piecesText (piece :: next :: rest) =
      Nat.toDigits 16 piece ++ ':' :: piecesText (next :: rest) := by
  simp [piecesText]

theorem piecesText_singleton (piece : Nat) : piecesText [piece] = Nat.toDigits 16 piece := by
  simp [piecesText]

theorem exists_piecesText (piece : Nat) (rest : List Nat) : ∃ c more, c ≠ ':' ∧
    piecesText (piece :: rest) = c :: more := by
  obtain ⟨c, more, other, isCons⟩ := exists_toDigits piece
  cases rest with
  | nil => exact ⟨c, more, other, by rw [piecesText_singleton, isCons]⟩
  | cons next others =>
      refine ⟨c, more ++ ':' :: piecesText (next :: others), other, ?_⟩
      rw [piecesText_cons, isCons, List.cons_append]

theorem readFields?_piecesText (count : Nat) (gapSeen : Bool) {pieces : List Nat}
    (small : ∀ piece ∈ pieces, piece < 65536) (fits : count + pieces.length ≤ 8) :
    readFields? count gapSeen (piecesText pieces) = some (pieces.map .piece) := by
  induction pieces generalizing count with
  | nil => simp [piecesText, readFields?]
  | cons piece rest induction =>
      rw [List.length_cons] at fits
      have isSmall := small piece List.mem_cons_self
      cases rest with
      | nil =>
          rw [piecesText_singleton, readFields?_last (by omega) isSmall]
          rfl
      | cons next others =>
          obtain ⟨c, more, other, isCons⟩ := exists_piecesText next others
          have later := induction (count + 1)
            (fun number member => small number (List.mem_cons_of_mem _ member)) (by omega)
          rw [isCons] at later
          rw [piecesText_cons, isCons, readFields?_next (by omega) isSmall, later]
          rfl

/-- A gap is read where it is written. -/
theorem readFields?_gap (count : Nat) {piece : Nat} {front back : List Nat}
    (small : ∀ number ∈ piece :: front ++ back, number < 65536)
    (fits : count + front.length + back.length + 2 ≤ 8) :
    readFields? count false (piecesText (piece :: front) ++ ':' :: ':' :: piecesText back) =
      some ((piece :: front).map .piece ++ .gap :: back.map .piece) := by
  induction front generalizing count piece with
  | nil =>
      rw [List.length_nil] at fits
      have room : count + 1 ≠ 8 := by omega
      have behind := readFields?_piecesText (count + 2) true
        (fun number member => small number (List.mem_append_right _ member)) (by omega)
      rw [piecesText_singleton, readFields?_next (by omega) (small piece (by simp)), readFields?,
        if_neg (by simp [room]), behind]
      rfl
  | cons next others induction =>
      rw [List.length_cons] at fits
      have later := induction (count + 1)
        (fun number member => small number (List.mem_cons_of_mem _ member)) (by omega)
      obtain ⟨c, more, -, isCons⟩ := exists_piecesText next others
      rw [isCons, List.cons_append] at later
      rw [piecesText_cons, List.append_assoc, List.cons_append, isCons, List.cons_append,
        readFields?_next (by omega) (small piece (by simp)), later]
      rfl

theorem replicate_leadingZeros (pieces : List Nat) :
    ∃ back, pieces = List.replicate (leadingZeros pieces) 0 ++ back := by
  refine ⟨pieces.dropWhile (· == 0), ?_⟩
  have zeros : pieces.takeWhile (· == 0) = List.replicate (leadingZeros pieces) 0 := by
    apply List.eq_replicate_of_mem
    intro piece member
    simpa using List.mem_takeWhile_imp member
  rw [← zeros, List.takeWhile_append_dropWhile]

/-- The longest group of zeros is a group of zeros. -/
theorem longestZeros_spec (position : Nat) (pieces : List Nat) : ∃ front back,
    (longestZeros position pieces).1 = position + front.length ∧
      pieces = front ++ List.replicate (longestZeros position pieces).2 0 ++ back := by
  induction pieces generalizing position with
  | nil => exact ⟨[], [], rfl, rfl⟩
  | cons piece rest induction =>
      rw [longestZeros]
      split
      · obtain ⟨back, here⟩ := replicate_leadingZeros (piece :: rest)
        exact ⟨[], back, rfl, here⟩
      · obtain ⟨front, back, start, later⟩ := induction (position + 1)
        refine ⟨piece :: front, back, ?_, ?_⟩
        · rw [start, List.length_cons]
          omega
        · simpa using later

theorem expandFields_pieces (pieces : List Nat) : expandFields (pieces.map .piece) = pieces := by
  simp [expandFields, List.flatMap_map]

theorem expandFields_gap (front back : List Nat) (count : Nat)
    (eight : front.length + count + back.length = 8) :
    expandFields (front.map .piece ++ .gap :: back.map .piece) =
      front ++ List.replicate count 0 ++ back := by
  have zeros : 9 - (front.length + (back.length + 1)) = count := by omega
  simp [expandFields, List.flatMap_map, zeros]

theorem readIpv6?_eq_some {c d : Char} {rest : List Char} {fields : List Ipv6Field}
    (other : c ≠ ':') (reads : readFields? 0 false (c :: d :: rest) = some fields)
    (eight : (expandFields fields).length = 8) :
    readIpv6? (c :: d :: rest) = some (expandFields fields) := by
  unfold readIpv6?
  split
  · next equality => exact absurd (List.cons.inj equality).1 other
  · next equality => exact absurd (List.cons.inj equality).1 other
  · next equality => simp at equality
  · simp [reads, eight]

theorem readIpv6?_gap {back : List Nat} (fits : back.length ≤ 7)
    (small : ∀ piece ∈ back, piece < 65536) :
    readIpv6? (':' :: ':' :: piecesText back) =
      some (List.replicate (8 - back.length) 0 ++ back) := by
  have reads := readFields?_piecesText 1 true small (by omega)
  have expanded := expandFields_gap [] back (8 - back.length)
    (by rw [List.length_nil]; omega)
  rw [List.map_nil, List.nil_append, List.nil_append] at expanded
  have eight : 8 - back.length + back.length = 8 := by omega
  simp [readIpv6?, reads, expanded, eight]

theorem readIpv6?_piecesText {pieces : List Nat} (eight : pieces.length = 8)
    (small : ∀ piece ∈ pieces, piece < 65536) : readIpv6? (piecesText pieces) = some pieces := by
  have reads := readFields?_piecesText 0 false small (by omega)
  match pieces, eight with
  | piece :: next :: others, eight =>
      obtain ⟨c, more, other, isCons⟩ := exists_toDigits piece
      obtain ⟨d, rest, isBehind⟩ :
          ∃ d rest, more ++ ':' :: piecesText (next :: others) = d :: rest :=
        List.exists_cons_of_ne_nil (by simp)
      rw [piecesText_cons, isCons, List.cons_append, isBehind] at reads ⊢
      rw [readIpv6?_eq_some other reads (by rw [expandFields_pieces, eight]), expandFields_pieces]

theorem readIpv6?_group {front back : List Nat} {piece count : Nat}
    (eight : (piece :: front).length + count + back.length = 8) (group : 2 ≤ count)
    (small : ∀ number ∈ piece :: front ++ back, number < 65536) :
    readIpv6? (piecesText (piece :: front) ++ ':' :: ':' :: piecesText back) =
      some (piece :: front ++ List.replicate count 0 ++ back) := by
  have total := eight
  rw [List.length_cons] at total
  have reads := readFields?_gap 0 small (by omega)
  obtain ⟨c, more, other, isCons⟩ := exists_piecesText piece front
  obtain ⟨d, rest, isBehind⟩ : ∃ d rest, more ++ ':' :: ':' :: piecesText back = d :: rest :=
    List.exists_cons_of_ne_nil (by simp)
  rw [isCons, List.cons_append, isBehind] at reads ⊢
  have expanded := expandFields_gap (piece :: front) back count eight
  rw [readIpv6?_eq_some other reads, expanded]
  rw [expanded]
  simp only [List.length_append, List.length_replicate]
  exact eight

/-- The text of eight numbers of sixteen bits is read as these numbers. -/
theorem readIpv6?_ipv6Text {pieces : List Nat} (eight : pieces.length = 8)
    (small : ∀ piece ∈ pieces, piece < 65536) : readIpv6? (ipv6Text pieces) = some pieces := by
  obtain ⟨front, back, start, written⟩ := longestZeros_spec 0 pieces
  rw [Nat.zero_add] at start
  rw [ipv6Text]
  generalize longestZeros 0 pieces = longest at start written ⊢
  obtain ⟨position, count⟩ := longest
  dsimp only at start written ⊢
  subst start
  split
  · exact readIpv6?_piecesText eight small
  · next group =>
      subst written
      have inFront : (front ++ List.replicate count 0 ++ back).take front.length = front := by
        simp
      have inBack : (front ++ List.replicate count 0 ++ back).drop (front.length + count) = back :=
        List.drop_left' (by simp)
      have isSmall : ∀ number ∈ front ++ back, number < 65536 := by
        intro number member
        apply small
        rcases List.mem_append.mp member with left | right
        · simp [left]
        · simp [right]
      have total : front.length + count + back.length = 8 := by
        simpa [Nat.add_assoc] using eight
      rw [inFront, inBack]
      cases front with
      | nil =>
          have isCount : 8 - back.length = count := by
            rw [List.length_nil] at total
            omega
          rw [← isCount]
          exact readIpv6?_gap (by omega) isSmall
      | cons piece others => exact readIpv6?_group total (by omega) isSmall

theorem mem_piecesText {pieces : List Nat} {c : Char} (member : c ∈ piecesText pieces) :
    c = ':' ∨ ∃ digit < 16, c = Nat.digitChar digit := by
  rcases Text.mem_intercalate member with colon | ⟨part, isPart, inPart⟩
  · exact .inl colon
  · obtain ⟨piece, -, rfl⟩ := List.mem_map.mp isPart
    exact .inr (Decimal.exists_digitChar_of_mem (by decide) inPart)

theorem mem_ipv6Text {pieces : List Nat} {c : Char} (member : c ∈ ipv6Text pieces) :
    c = ':' ∨ ∃ digit < 16, c = Nat.digitChar digit := by
  rw [ipv6Text] at member
  generalize longestZeros 0 pieces = longest at member
  obtain ⟨start, length⟩ := longest
  dsimp only at member
  split at member
  · exact mem_piecesText member
  · simp only [List.mem_append, List.mem_cons] at member
    rcases member with front | rfl | rfl | back
    · exact mem_piecesText front
    · exact .inl rfl
    · exact .inl rfl
    · exact mem_piecesText back

theorem le_of_embeddedByte? {text : List Char} {byte : Nat}
    (found : embeddedByte? text = some byte) : byte ≤ 255 := by
  simp only [embeddedByte?, Option.bind_eq_bind, Option.bind_eq_some_iff] at found
  obtain ⟨value, -, found⟩ := found
  split at found
  · cases found
  · next inRange =>
      cases found
      simp only [Bool.or_eq_true, decide_eq_true_eq, not_or] at inRange
      omega

/-- Whether the numbers among some fields have sixteen bits. -/
def AreSmall (fields : List Ipv6Field) : Prop :=
  ∀ value, .piece value ∈ fields → value < 65536

theorem AreSmall.piece {value : Nat} {fields : List Ipv6Field} (small : value < 65536)
    (others : AreSmall fields) : AreSmall (.piece value :: fields) := by
  intro other member
  rcases List.mem_cons.mp member with same | later
  · cases same
    exact small
  · exact others other later

theorem AreSmall.gap {fields : List Ipv6Field} (others : AreSmall fields) :
    AreSmall (.gap :: fields) := by
  intro other member
  rcases List.mem_cons.mp member with same | later
  · cases same
  · exact others other later

theorem areSmall_nil : AreSmall [] := by
  intro other member
  cases member

theorem areSmall_embeddedIpv4? {text : List Char} {fields : List Ipv6Field}
    (found : embeddedIpv4? text = some fields) : AreSmall fields := by
  simp only [embeddedIpv4?, Option.bind_eq_bind, Option.bind_eq_some_iff] at found
  obtain ⟨bytes, read, found⟩ := found
  split at found
  · next a b c d =>
      cases found
      have range : ∀ byte ∈ [a, b, c, d], byte ≤ 255 := by
        intro byte member
        obtain ⟨part, -, isByte⟩ := exists_of_mem_mapM read byte member
        exact le_of_embeddedByte? isByte
      have first := range a (by simp)
      have second := range b (by simp)
      have third := range c (by simp)
      have fourth := range d (by simp)
      exact .piece (by omega) (.piece (by omega) areSmall_nil)
  · cases found

theorem areSmall_readFields? {count : Nat} {gapSeen : Bool} {text : List Char}
    {fields : List Ipv6Field} (found : readFields? count gapSeen text = some fields) :
    AreSmall fields := by
  induction length : text.length using Nat.strongRecOn generalizing count gapSeen text fields with
  | ind length induction =>
      subst length
      cases text with
      | nil =>
          rw [readFields?] at found
          cases found
          exact areSmall_nil
      | cons c rest =>
          by_cases colon : c = ':'
          · subst colon
            rw [readFields?] at found
            split at found
            · cases found
            · obtain ⟨others, later, rfl⟩ := Option.map_eq_some_iff.mp found
              exact (induction rest.length (by simp) later rfl).gap
          · rw [readFields?.eq_3 _ _ _ _ colon] at found
            have four : (((c :: rest).take 4).takeWhile fun c => (hexValue? c).isSome).length ≤ 4 :=
              (List.takeWhile_sublist _).length_le.trans (List.length_take_le _ _)
            generalize ((c :: rest).take 4).takeWhile (fun c => (hexValue? c).isSome) = written
              at found four
            split at found
            · cases found
            · next value isValue =>
                have small : value < 65536 :=
                  Nat.lt_of_lt_of_le (ofDigits?_lt isValue) (Nat.pow_le_pow_right (by decide) four)
                split at found
                · cases found
                · split at found
                  · cases found
                    exact .piece small areSmall_nil
                  · split at found
                    · cases found
                    · exact areSmall_embeddedIpv4? found
                  · cases found
                  · next next more _ =>
                    split at found
                    · next shorter =>
                        obtain ⟨others, later, rfl⟩ := Option.map_eq_some_iff.mp found
                        exact .piece small (induction _ shorter later rfl)
                    · cases found
                  · cases found

theorem small_of_expandFields {fields : List Ipv6Field} (small : AreSmall fields) :
    ∀ piece ∈ expandFields fields, piece < 65536 := by
  intro piece member
  obtain ⟨field, isField, inField⟩ := List.mem_flatMap.mp member
  cases field with
  | piece value =>
      obtain rfl := List.mem_singleton.mp inField
      exact small piece isField
  | gap =>
      obtain rfl := List.eq_of_mem_replicate inField
      decide

/-- An address that was read has eight numbers of sixteen bits. -/
theorem of_readIpv6? {text : List Char} {pieces : List Nat}
    (found : readIpv6? text = some pieces) :
    pieces.length = 8 ∧ ∀ piece ∈ pieces, piece < 65536 := by
  have expanded : ∀ fields? : Option (List Ipv6Field), (∀ fields ∈ fields?, AreSmall fields) →
      (fields?.bind fun fields =>
        if (expandFields fields).length = 8 then some (expandFields fields) else none) =
          some pieces →
      pieces.length = 8 ∧ ∀ piece ∈ pieces, piece < 65536 := by
    rintro fields? small bound
    obtain ⟨fields, rfl, result⟩ := Option.bind_eq_some_iff.mp bound
    split at result
    · next eight =>
        cases result
        exact ⟨eight, small_of_expandFields (small fields rfl)⟩
    · cases result
  unfold readIpv6? at found
  split at found
  · apply expanded _ _ found
    intro fields read
    obtain ⟨others, later, rfl⟩ := Option.map_eq_some_iff.mp read
    exact (areSmall_readFields? later).gap
  · cases found
  · cases found
  · exact expanded _ (fun _ read => areSmall_readFields? read) found

end TypedEnv.Url
