import TypedEnv.Proofs.Url.Address

/-!
# Written addresses

The text of an address that was read is significant as a whole: only a path
without structure can have blanks, and it does not end in one when nothing
follows.  So the scheme is found again, and what is read behind it is what was
written behind it.
-/

namespace TypedEnv.Url

/-- What is written behind the scheme and its colon. -/
def body (url : Url) : List Char :=
  url.authorityText ++ (url.path.text ++ tailText url.query url.fragment)

theorem text_eq (url : Url) : url.text = url.scheme ++ ':' :: url.body := by
  obtain ⟨scheme, authority, path, query, fragment⟩ := url
  cases query <;> cases fragment <;> simp [text, body, tailText, marked]

section Visible

variable {type : SchemeType} {scheme : List Char} {segments : List (List Char)}
  {authority : Authority} {url : Url}

theorem visible_of_isHostChar {c : Char} (isHostChar : Host.isHostChar c = true) :
    32 < c.toNat := by
  rw [Host.isHostChar, Bool.and_eq_true, decide_eq_true_eq] at isHostChar
  exact isHostChar.1

/-- A written path has slashes and characters that a path does not encode. -/
theorem of_mem_rooted {c : Char}
    (chars : ∀ segment ∈ segments, ∀ c ∈ segment, isSegmentChar type c = true)
    (member : c ∈ (Path.rooted segments).text) : c = '/' ∨ isPathEncoded c = false := by
  obtain ⟨segment, isSegment, inSegment⟩ := List.mem_flatMap.mp member
  rcases List.mem_cons.mp inSegment with rfl | inside
  · exact .inl rfl
  · exact .inr (isSegmentChar_iff.mp (chars segment isSegment c inside)).1

theorem visible_segments
    (chars : ∀ segment ∈ segments, ∀ c ∈ segment, isSegmentChar type c = true) :
    ∀ c ∈ (Path.rooted segments).text, 32 < c.toNat := by
  intro c member
  rcases of_mem_rooted chars member with rfl | kept
  · decide
  · exact visible_of_isPathEncoded kept

theorem visible_authority (isAuthority : authority.IsAuthority type scheme) :
    ∀ c ∈ authority.text, 32 < c.toNat := by
  intro c member
  rcases isHostChar_text isAuthority c member with isHostChar | rfl
  · exact visible_of_isHostChar isHostChar
  · decide

theorem fileAuthority_text (host : Host) : (fileAuthority host).text = host.text := by
  simp [Authority.text, fileAuthority]

theorem visible_fileHost {host : Host} (isHost : IsFileHost host) :
    ∀ c ∈ (fileAuthority host).text, 32 < c.toNat := by
  rw [fileAuthority_text]
  rcases isHost with rfl | ⟨isHost, -⟩
  · simp [Host.text]
  · exact fun c member => visible_of_isHostChar (Host.isHostChar_of_mem isHost c member)

theorem visible_authorityText
    (visible : ∀ authority ∈ url.authority, ∀ c ∈ authority.text, 32 < c.toNat) :
    ∀ c ∈ url.authorityText, 32 < c.toNat := by
  intro c member
  unfold authorityText at member
  split at member
  · next authority isAuthority =>
      rcases List.mem_cons.mp member with rfl | later
      · decide
      · rcases List.mem_cons.mp later with rfl | inText
        · decide
        · exact visible authority isAuthority c inText
  · split at member
    · have marks : ∀ d ∈ ['/', '.'], 32 < d.toNat := Text.forall_mem_of_all (by decide)
      exact marks c member
    · cases member

theorem visible_body {query fragment : Option (List Char)} {authority : Option Authority}
    (chars : ∀ segment ∈ segments, ∀ c ∈ segment, isSegmentChar type c = true)
    (isTail : IsTail type query fragment)
    (visible : ∀ part ∈ authority, ∀ c ∈ part.text, 32 < c.toNat) :
    ∀ c ∈ body ⟨scheme, authority, .rooted segments, query, fragment⟩, 32 < c.toNat := by
  intro c member
  rcases List.mem_append.mp member with inAuthority | behind
  · exact visible_authorityText visible c inAuthority
  · rcases List.mem_append.mp behind with inPath | inTail
    · exact visible_segments chars c inPath
    · exact visible_tailText isTail c inTail

end Visible

/-- Only a path that begins with two slashes needs a point before it. -/
theorem authorityText_plain {scheme text : List Char} {query fragment : Option (List Char)}
    (noSlash : text.head? ≠ some '/') :
    authorityText ⟨scheme, none, .plain text, query, fragment⟩ = [] := by
  apply if_neg
  intro isPrefix
  obtain ⟨behind, isAppend⟩ := List.isPrefixOf_iff_prefix.mp isPrefix
  apply noSlash
  rw [show text = ['/', '/'] ++ behind from isAppend.symm]
  rfl

theorem isScheme_file : IsScheme "file".toList := by
  constructor
  · rfl
  · exact Text.forall_mem_of_all (by decide)
  · exact Text.forall_mem_of_all (by decide)

section Significant

variable {scheme rest : List Char}

theorem significant_visible (isScheme : IsScheme scheme) (visible : ∀ c ∈ rest, 32 < c.toNat) :
    significant (scheme ++ ':' :: rest) = scheme ++ ':' :: rest := by
  have all : ∀ c ∈ scheme ++ ':' :: rest, 32 < c.toNat := by
    intro c member
    rcases List.mem_append.mp member with inScheme | behind
    · exact visible_scheme isScheme c inScheme
    · rcases List.mem_cons.mp behind with rfl | inRest
      · decide
      · exact visible c inRest
  apply significant_eq_self
  · exact fun c isHead => all c (List.mem_of_mem_head? isHead)
  · exact fun c isLast => all c (List.mem_of_getLast? isLast)
  · exact fun c member => Nat.le_of_lt (all c member)

variable {type : SchemeType} {text : List Char} {query fragment : Option (List Char)}

/-- The last character of a text before nothing is no blank. -/
theorem visible_getLast?_plain (isPlain : IsPlain text query fragment) :
    ∀ c ∈ text.getLast?, 32 < c.toNat ∨ tailText query fragment ≠ [] := by
  intro c isLast
  by_cases blank : c = ' '
  · right
    intro nothing
    obtain ⟨noQuery, noFragment⟩ := List.append_eq_nil_iff.mp nothing
    rw [blank] at isLast
    cases query with
    | some query => cases noQuery
    | none =>
        cases fragment with
        | some fragment => cases noFragment
        | none => exact isPlain.last rfl rfl isLast
  · left
    exact visible_of_kept (isPlain.chars c (List.mem_of_getLast? isLast)).1 blank

theorem significant_plain (isScheme : IsScheme scheme) (isPlain : IsPlain text query fragment)
    (isTail : IsTail type query fragment) :
    significant (scheme ++ ':' :: (text ++ tailText query fragment)) =
      scheme ++ ':' :: (text ++ tailText query fragment) := by
  have inTail := visible_tailText isTail
  have inText : ∀ c ∈ text, 32 ≤ c.toNat := by
    intro c member
    have kept := (isPlain.chars c member).1
    simp only [isControl, Bool.or_eq_false_iff, decide_eq_false_iff_not] at kept
    omega
  apply significant_eq_self
  · intro c isHead
    cases scheme with
    | nil => cases isScheme.letter
    | cons first others =>
        cases isHead
        exact visible_scheme isScheme c List.mem_cons_self
  · intro c isLast
    rw [List.getLast?_append, List.getLast?_cons, List.getLast?_append] at isLast
    cases tailLast : (tailText query fragment).getLast? with
    | some last =>
        rw [tailLast] at isLast
        cases isLast
        exact inTail last (List.mem_of_getLast? tailLast)
    | none =>
        rw [tailLast] at isLast
        cases textLast : text.getLast? with
        | none =>
            rw [textLast] at isLast
            cases isLast
            decide
        | some last =>
            rw [textLast] at isLast
            cases isLast
            apply (visible_getLast?_plain isPlain last textLast).resolve_right
            exact not_not_intro (List.getLast?_eq_none_iff.mp tailLast)
  · intro c member
    rcases List.mem_append.mp member with inScheme | behind
    · exact Nat.le_of_lt (visible_scheme isScheme c inScheme)
    · rcases List.mem_cons.mp behind with rfl | inBody
      · decide
      · rcases List.mem_append.mp inBody with inside | later
        · exact inText c inside
        · exact Nat.le_of_lt (inTail c later)

end Significant

section Read

variable {url : Url} (isAddress : IsAddress url)
include isAddress

theorem IsAddress.isScheme : IsScheme url.scheme := by
  cases isAddress with
  | file => exact isScheme_file
  | special isScheme => exact isScheme
  | served isScheme => exact isScheme
  | rooted isScheme => exact isScheme
  | plain isScheme => exact isScheme

theorem significant_text : significant url.text = url.text := by
  have isScheme := isAddress.isScheme
  rw [text_eq]
  cases isAddress with
  | file isHost isPath isTail =>
      apply significant_visible isScheme
      apply visible_body isPath.chars isTail
      rintro authority ⟨⟩
      exact visible_fileHost isHost
  | special _ _ isAuthority isPath isTail =>
      apply significant_visible isScheme
      apply visible_body isPath.chars isTail
      rintro authority ⟨⟩
      exact visible_authority isAuthority
  | @served scheme authority segments query fragment _ _ isAuthority isPath isTail =>
      have chars : ∀ segment ∈ segments, ∀ c ∈ segment, isSegmentChar .ordinary c = true := by
        rcases isPath with rfl | isPath
        · simp
        · exact isPath.chars
      apply significant_visible isScheme
      apply visible_body chars isTail
      rintro authority ⟨⟩
      exact visible_authority isAuthority
  | rooted _ _ isPath isTail =>
      apply significant_visible isScheme
      apply visible_body isPath.chars isTail
      rintro authority ⟨⟩
  | plain _ _ isPlain isTail =>
      rw [body, authorityText_plain isPlain.start]
      exact significant_plain isScheme isPlain isTail

/-- What stands behind the scheme is read as the type of the scheme requires. -/
theorem read_text : read url.text =
    match SchemeType.ofScheme url.scheme with
    | .file => readFile url.body
    | .special => readAuthority .special url.scheme (url.body.dropWhile isSlash)
    | .ordinary => readOrdinary url.scheme url.body := by
  have isScheme : readScheme? (significant url.text) = some (url.scheme, url.body) := by
    rw [significant_text isAddress, text_eq, readScheme?_text isAddress.isScheme]
  rw [read]
  cases type : SchemeType.ofScheme url.scheme with
  | file => simp only [isScheme, type]
  | special => simp only [isScheme, type]
  | ordinary => simp only [isScheme, type]

end Read

end TypedEnv.Url
