import TypedEnv.Proofs.Domain.Ascii
import TypedEnv.Proofs.Url.Ipv4
import TypedEnv.Proofs.Url.Ipv6
import TypedEnv.Proofs.Url.Percent
import TypedEnv.Url.Host

/-!
# Hosts that are read again

An address in numbers is read as it was written, and so is an encoded name.  A
domain name is read as it was written exactly when it is its own ASCII form;
only a name with a label that stands for another one can fail to be.
-/

namespace TypedEnv.Url

section Numbers

theorem joinersAllowed_of_not_joiner {before label : List Char}
    (noJoiner : ∀ c ∈ label, c ≠ '\u200c' ∧ c ≠ '\u200d') :
    Domain.joinersAllowed before label = true := by
  induction label generalizing before with
  | nil => rfl
  | cons c rest induction =>
      have current := noJoiner c List.mem_cons_self
      simp [Domain.joinersAllowed, current,
        induction fun d member => noJoiner d (List.mem_cons_of_mem _ member)]

/-- A digit is valid everywhere in a domain name. -/
theorem digitChar_domain : ∀ digit < 10, Domain.isDomainChar (Nat.digitChar digit) = true ∧
    Nat.digitChar digit ≠ '.' ∧ Domain.isValid (Nat.digitChar digit) = true ∧
    Domain.isDenied (Nat.digitChar digit) = false ∧
    Domain.isMark (Nat.digitChar digit) = false ∧
    Nat.digitChar digit ≠ '\u200c' ∧ Nat.digitChar digit ≠ '\u200d' ∧
    Domain.isRightToLeft (Nat.digitChar digit) = false := by
  decide +kernel

theorem exists_digitChar {n : Nat} {c : Char} (member : c ∈ Decimal.digits n) :
    ∃ digit < 10, c = Nat.digitChar digit :=
  Decimal.exists_digitChar_of_mem (by decide) member

theorem isLabelValid_digits (n : Nat) : Domain.isLabelValid (Decimal.digits n) = true := by
  have joiners : Domain.joinersAllowed [] (Decimal.digits n) = true := by
    apply joinersAllowed_of_not_joiner
    intro c member
    obtain ⟨digit, range, rfl⟩ := exists_digitChar member
    obtain ⟨-, -, -, -, -, first, second, -⟩ := digitChar_domain digit range
    exact ⟨first, second⟩
  have noMark : (Decimal.digits n).head?.any Domain.isMark = false := by
    obtain ⟨c, rest, isCons⟩ := List.exists_cons_of_ne_nil (Decimal.digits_ne_nil n)
    have member : c ∈ Decimal.digits n := by
      rw [isCons]
      exact List.mem_cons_self
    obtain ⟨digit, range, rfl⟩ := exists_digitChar member
    simp [isCons, (digitChar_domain digit range).2.2.2.2.1]
  simp only [Domain.isLabelValid, joiners, noMark, Bool.not_false, Bool.and_true, List.all_eq_true]
  intro c member
  obtain ⟨digit, range, rfl⟩ := exists_digitChar member
  obtain ⟨-, notPoint, valid, allowed, -⟩ := digitChar_domain digit range
  simp [notPoint, valid, allowed]

/-- The text of a version 4 address is its own ASCII form. -/
theorem toAscii?_ipv4Text (value : Nat) :
    Domain.toAscii? (ipv4Text value) = some (ipv4Text value) := by
  have chars : ∀ label ∈ (ipv4Bytes value).map Decimal.digits, ∀ c ∈ label,
      ∃ digit < 10, c = Nat.digitChar digit := by
    intro label member c inLabel
    obtain ⟨byte, -, rfl⟩ := List.mem_map.mp member
    exact exists_digitChar inLabel
  rw [ipv4Text_eq]
  apply Domain.toAscii?_labels
  · simp [ipv4Bytes]
  · intro label member c inLabel
    obtain ⟨digit, range, rfl⟩ := chars label member c inLabel
    obtain ⟨isDomain, notPoint, -⟩ := digitChar_domain digit range
    exact ⟨isDomain, notPoint⟩
  · intro label member
    rw [Bool.eq_false_iff, Ne, List.isPrefixOf_iff_prefix]
    intro isMarked
    have mark : 'x' ∈ label := isMarked.subset (by decide)
    obtain ⟨digit, range, same⟩ := chars label member _ mark
    have noLetter : ∀ digit < 10, 'x' ≠ Nat.digitChar digit := by decide
    exact noLetter digit range same
  · have leftToRight : (((ipv4Bytes value).map Decimal.digits).any
        (·.any Domain.isRightToLeft)) = false := by
      simp only [List.any_eq_false, Bool.not_eq_true]
      intro label member c inLabel
      obtain ⟨digit, range, rfl⟩ := chars label member c inLabel
      exact (digitChar_domain digit range).2.2.2.2.2.2.2
    rw [leftToRight, List.all_eq_true]
    intro label member
    obtain ⟨byte, -, rfl⟩ := List.mem_map.mp member
    simp [isLabelValid_digits]

end Numbers

namespace Host

/-- What every host that was read under a scheme of a type has in common. -/
inductive IsHost (type : SchemeType) : Host → Prop where
  | domain {name : List Char} (special : type.isSpecial = true) (nonempty : name ≠ [])
      (chars : ∀ c ∈ name, Domain.isDomainChar c = true) (noNumber : endsInNumber name = false)
      (plain : (∀ label ∈ name.splitOn '.', Domain.asciiMark.isPrefixOf label = false) →
        Domain.toAscii? name = some name) :
      IsHost type (.name name)
  | encoded {name : List Char} (ordinary : type.isSpecial = false)
      (chars : ∀ c ∈ name, isControl c = false ∧ isForbidden c = false) :
      IsHost type (.name name)
  | ipv4 {value : Nat} (special : type.isSpecial = true) (fits : value < UInt32.size) :
      IsHost type (.ipv4 value)
  | ipv6 {pieces : List Nat} (eight : pieces.length = 8)
      (small : ∀ piece ∈ pieces, piece < 65536) :
      IsHost type (.ipv6 pieces)

variable {type : SchemeType} {host : Host}

theorem isHost_readBracketed {text : List Char} (found : readBracketed text = .ok host) :
    IsHost type host := by
  rw [readBracketed] at found
  split at found
  · split at found
    · next pieces read =>
        cases found
        obtain ⟨eight, small⟩ := of_readIpv6? read
        exact .ipv6 eight small
    · cases found
  · cases found

theorem isHost_readDomain {text : List Char} (special : type.isSpecial = true)
    (found : readDomain text = .ok host) : IsHost type host := by
  rw [readDomain] at found
  split at found
  · cases found
  · cases found
  · next name nonempty form =>
      obtain ⟨decoded, -, isForm⟩ := Option.bind_eq_some_iff.mp form
      obtain ⟨chars, plain⟩ := Domain.of_toAscii? isForm
      split at found
      · split at found
        · next value read =>
            cases found
            exact .ipv4 special (lt_of_readIpv4? read)
        · cases found
      · next noNumber =>
          cases found
          exact .domain special nonempty chars (by simpa using noNumber) plain

theorem isHost_read {text : List Char} (found : Host.read type text = .ok host) :
    IsHost type host := by
  rw [Host.read] at found
  split at found
  · exact isHost_readBracketed found
  · split at found
    · next special => exact isHost_readDomain special found
    · next ordinary =>
        split at found
        · cases found
        · next allowed =>
            cases found
            refine .encoded (by simpa using ordinary) ?_
            have controls : ∀ c ∈ escapeChars, isControl c = false ∧ isForbidden c = false :=
              Text.forall_mem_of_all (by decide)
            intro c member
            rcases of_mem_percentEncode member with ⟨inText, kept⟩ | isEscape
            · have none := List.any_eq_false.mp (Bool.eq_false_iff.mpr allowed) c inText
              exact ⟨kept, Bool.eq_false_iff.mpr none⟩
            · exact controls c isEscape

/-- Whether a domain name with a label that stands for another one is its own ASCII form. -/
def IsSettled (type : SchemeType) (host : Host) : Prop :=
  ∀ name, host = .name name → type.isSpecial = true →
    (∃ label ∈ name.splitOn '.', Domain.asciiMark.isPrefixOf label = true) →
    Domain.toAscii? name = some name

/-- A name in ASCII characters is decoded to itself. -/
theorem bind_toAscii?_domainChars {name : List Char}
    (chars : ∀ c ∈ name, Domain.isDomainChar c = true) :
    (String.fromUTF8? ⟨(percentDecode name).toArray⟩).bind
      (fun decoded => Domain.toAscii? decoded.toList) = Domain.toAscii? name := by
  have noPercent : '%' ∉ name := by
    intro member
    have isDomain := chars _ member
    cases isDomain
  rw [fromUTF8?_percentDecode noPercent, Option.bind_some, String.toList_ofList]

/-- A text that is its own ASCII form is an IPv4 address or the name of a domain. -/
theorem readDomain_of_toAscii? {name : List Char} (nonempty : name ≠ [])
    (form : Domain.toAscii? name = some name) :
    readDomain name =
      if endsInNumber name then
        match readIpv4? name with
        | some value => .ok (.ipv4 value)
        | none => .error .badIpv4
      else .ok (.name name) := by
  rw [readDomain, bind_toAscii?_domainChars (Domain.of_toAscii? form).1, form]
  split
  · next missing => cases missing
  · next empty => exact absurd (Option.some_inj.mp empty) nonempty
  · next domain _ same =>
      cases same
      rfl

theorem readDomain_ipv4Text {value : Nat} (fits : value < UInt32.size) :
    readDomain (ipv4Text value) = .ok (.ipv4 value) := by
  have number := endsInNumber_ipv4Text value
  have nonempty : ipv4Text value ≠ [] := by
    intro empty
    rw [empty] at number
    cases number
  rw [readDomain_of_toAscii? nonempty (toAscii?_ipv4Text value), if_pos number,
    readIpv4?_ipv4Text fits]

/-- A domain name is read as it was written exactly when it is its own ASCII form. -/
theorem readDomain_eq_iff {name : List Char} (nonempty : name ≠ [])
    (chars : ∀ c ∈ name, Domain.isDomainChar c = true) (noNumber : endsInNumber name = false) :
    readDomain name = .ok (.name name) ↔ Domain.toAscii? name = some name := by
  constructor
  · intro found
    rw [readDomain, bind_toAscii?_domainChars chars] at found
    split at found
    · cases found
    · cases found
    · next domain _ form =>
        split at found
        · split at found
          · cases found
          · cases found
        · cases found
          exact form
  · intro form
    rw [readDomain_of_toAscii? nonempty form, noNumber]
    rfl

theorem head?_ne_bracket {text : List Char} (noBracket : '[' ∉ text) : text.head? ≠ some '[' :=
  fun isHead => noBracket (List.mem_of_mem_head? isHead)

theorem read_encoded {name : List Char} (ordinary : type.isSpecial = false)
    (chars : ∀ c ∈ name, isControl c = false ∧ isForbidden c = false) :
    Host.read type name = .ok (.name name) := by
  have noBracket : '[' ∉ name := by
    intro member
    have allowed := (chars _ member).2
    cases allowed
  have allowed : name.any isForbidden = false := by
    rw [List.any_eq_false]
    intro c member
    simp [(chars c member).2]
  have kept := percentEncode_eq_self fun c member => (chars c member).1
  rw [Host.read, if_neg (head?_ne_bracket noBracket), ordinary, allowed, kept]
  rfl

theorem read_ipv4Text {value : Nat} (special : type.isSpecial = true)
    (fits : value < UInt32.size) : Host.read type (ipv4Text value) = .ok (.ipv4 value) := by
  have noBracket : '[' ∉ ipv4Text value := by
    intro member
    have isDomain := (Domain.of_toAscii? (toAscii?_ipv4Text value)).1 _ member
    cases isDomain
  rw [Host.read, if_neg (head?_ne_bracket noBracket), if_pos special, readDomain_ipv4Text fits]

theorem read_ipv6Text {pieces : List Nat} (eight : pieces.length = 8)
    (small : ∀ piece ∈ pieces, piece < 65536) :
    Host.read type ('[' :: (ipv6Text pieces ++ [']'])) = .ok (.ipv6 pieces) := by
  rw [Host.read, List.head?_cons, if_pos rfl, readBracketed,
    if_pos (by rw [← List.cons_append, List.getLast?_concat]), List.drop_succ_cons,
    List.drop_zero, List.dropLast_concat, readIpv6?_ipv6Text eight small]

/-- A host is read as it was written exactly when it is settled. -/
theorem read_text_iff (isHost : IsHost type host) :
    Host.read type host.text = .ok host ↔ host.IsSettled type := by
  cases isHost with
  | @domain name special nonempty chars noNumber plain =>
      have noBracket : '[' ∉ name := by
        intro member
        have isDomain := chars _ member
        cases isDomain
      rw [Host.read, Host.text, if_neg (head?_ne_bracket noBracket), if_pos special,
        readDomain_eq_iff nonempty chars noNumber]
      constructor
      · rintro form other ⟨⟩ - -
        exact form
      · intro settled
        by_cases marked : ∃ label ∈ name.splitOn '.', Domain.asciiMark.isPrefixOf label = true
        · exact settled name rfl special marked
        · apply plain
          intro label isLabel
          rw [Bool.eq_false_iff]
          exact fun isMarked => marked ⟨label, isLabel, isMarked⟩
  | encoded ordinary chars =>
      apply iff_of_true (read_encoded ordinary chars)
      intro other _ special
      rw [ordinary] at special
      cases special
  | ipv4 special fits =>
      apply iff_of_true (read_ipv4Text special fits)
      rintro other ⟨⟩
  | ipv6 eight small =>
      apply iff_of_true (read_ipv6Text eight small)
      rintro other ⟨⟩

/-- The characters of a written host, apart from the colons of version 6 addresses. -/
def isHostChar (c : Char) : Bool :=
  32 < c.toNat && !"/?#@\\|".toList.contains c

theorem isHostChar_of_not_mem {c : Char} {forbidden : List Char} (visible : 32 < c.toNat)
    (allowed : c ∉ forbidden) (listed : ":[/?#@\\|".toList ⊆ forbidden) :
    isHostChar c = true ∧ c ≠ ':' ∧ c ≠ '[' := by
  have other : c ∉ ":[/?#@\\|".toList := fun member => allowed (listed member)
  simpa [isHostChar, visible, and_assoc, and_comm, and_left_comm] using other

theorem isHostChar_domain {c : Char} (isDomain : Domain.isDomainChar c = true) :
    isHostChar c = true ∧ c ≠ ':' ∧ c ≠ '[' := by
  have allowed := (Domain.isDomainChar_iff.mp isDomain).2.2
  simp only [Domain.isDenied, Bool.or_eq_false_iff, decide_eq_false_iff_not] at allowed
  obtain ⟨⟨visible, -⟩, unlisted⟩ := allowed
  have notIn : c ∉ "%#/:<>?@[\\]^|".toList := by simpa using unlisted
  exact isHostChar_of_not_mem (by omega) notIn (by decide)

theorem isHostChar_encoded {c : Char} (kept : isControl c = false)
    (allowed : isForbidden c = false) : isHostChar c = true ∧ c ≠ ':' ∧ c ≠ '[' := by
  have notIn : c ∉ "\x00\t\n\r #/:<>?@[\\]^|".toList := by simpa [isForbidden] using allowed
  have notBlank : c ≠ ' ' := by
    rintro rfl
    exact notIn (by decide)
  exact isHostChar_of_not_mem (visible_of_kept kept notBlank) notIn (by decide)

/-- A name and a version 4 address have no brackets and no colons. -/
theorem isHost_cases (isHost : IsHost type host) :
    (∀ c ∈ host.text, isHostChar c = true ∧ c ≠ ':' ∧ c ≠ '[') ∨
      ∃ body, host.text = '[' :: (body ++ [']']) ∧
        ∀ c ∈ body, isHostChar c = true ∧ c ≠ '[' ∧ c ≠ ']' := by
  cases isHost with
  | domain _ _ chars => exact .inl fun c member => isHostChar_domain (chars c member)
  | encoded _ chars =>
      exact .inl fun c member => isHostChar_encoded (chars c member).1 (chars c member).2
  | @ipv4 value =>
      have chars := (Domain.of_toAscii? (toAscii?_ipv4Text value)).1
      exact .inl fun c member => isHostChar_domain (chars c member)
  | @ipv6 pieces =>
      refine .inr ⟨ipv6Text pieces, rfl, ?_⟩
      have digits : ∀ digit < 16, isHostChar (Nat.digitChar digit) = true ∧
          Nat.digitChar digit ≠ '[' ∧ Nat.digitChar digit ≠ ']' := by decide
      intro c member
      rcases mem_ipv6Text member with rfl | ⟨digit, range, rfl⟩
      · decide
      · exact digits digit range

theorem isHostChar_of_mem (isHost : IsHost type host) : ∀ c ∈ host.text, isHostChar c = true := by
  intro c member
  rcases isHost_cases isHost with plain | ⟨body, written, chars⟩
  · exact (plain c member).1
  · rw [written] at member
    rcases List.mem_cons.mp member with rfl | inside
    · decide
    · rcases List.mem_append.mp inside with inBody | last
      · exact (chars c inBody).1
      · obtain rfl := List.mem_singleton.mp last
        decide

end Host

end TypedEnv.Url
