import TypedEnv.Proofs.Url.Written

/-!
# Addresses that are read again

An address that was read is written and read again.  It stays the same exactly
when no drive letter is the first segment of its path behind a file host, and
its domain name is its own ASCII form.
-/

namespace TypedEnv.Url

/-- The segments of a path; a path without structure has none. -/
def Path.segments : Path → List (List Char)
  | .rooted segments => segments
  | .plain _ => []

/-- What an address that was read needs to be read as it was written. -/
structure IsStable (url : Url) : Prop where
  drive : url.scheme = "file".toList → ∀ authority ∈ url.authority,
    authority.host.isEmpty = false → ∀ segment ∈ url.path.segments.head?,
      isDriveLetter segment = false
  host : ∀ authority ∈ url.authority,
    authority.host.IsSettled (SchemeType.ofScheme url.scheme)

variable {type : SchemeType} {scheme rest : List Char} {segments : List (List Char)}
  {query fragment : Option (List Char)}

theorem inPath_segments
    (chars : ∀ segment ∈ segments, ∀ c ∈ segment, isSegmentChar type c = true) :
    ∀ c ∈ (Path.rooted segments).text, c ≠ '?' ∧ c ≠ '#' := by
  have encoded : isPathEncoded '?' = true ∧ isPathEncoded '#' = true := by decide
  intro c member
  rcases of_mem_rooted chars member with rfl | kept
  · decide
  · constructor
    · rintro rfl
      rw [encoded.1] at kept
      cases kept
    · rintro rfl
      rw [encoded.2] at kept
      cases kept

theorem inPath_joined (isPath : IsPath type segments) :
    ∀ c ∈ joined segments, c ≠ '?' ∧ c ≠ '#' := by
  intro c member
  apply inPath_segments isPath.chars
  change c ∈ segments.flatMap ('/' :: ·)
  rw [flatMap_slash isPath.nonempty]
  exact List.mem_cons_of_mem _ member

section Authority

variable {authority : Authority}

theorem ends_path : Ends type ((Path.rooted segments).text ++ tailText query fragment) := by
  intro c isHead
  cases segments with
  | nil =>
      rcases head?_tailText c isHead with rfl | rfl
      · rfl
      · rfl
  | cons first others =>
      cases isHead
      rfl

theorem head?_ne_colon (ends : Ends type rest) : ¬ (rest.head? == some ':') = true := by
  intro isColon
  have ending := ends ':' (by simpa using isColon)
  cases type with
  | file => cases ending
  | special => cases ending
  | ordinary => cases ending

theorem readPortPart_text (isAuthority : authority.IsAuthority type scheme)
    (ends : Ends type rest) :
    readPortPart scheme (authority.portText ++ rest) = .ok (authority.port, rest) := by
  have fits := isAuthority.port
  unfold Authority.portText
  cases port : authority.port with
  | none => exact if_neg (head?_ne_colon ends)
  | some number =>
      rw [port] at fits
      obtain ⟨small, unusual⟩ := fits number rfl
      change readPort scheme (Decimal.digits number ++ rest) = .ok (some number, rest)
      exact readPort_text small unusual ends

/-- Whatever is read from the text of an authority has the host that is read from its host. -/
theorem host_of_reads (isAuthority : authority.IsAuthority type scheme) (ends : Ends type rest)
    {other : Authority} {left : List Char}
    (reads : ReadsAuthority type scheme (authority.text ++ rest) other left) :
    Host.read type authority.host.text = .ok other.host := by
  obtain ⟨afterUser, hostText, afterHost, credentials, split, -, isHost, -⟩ := reads.parts
  rw [readCredentials_text isAuthority ends] at credentials
  obtain rfl := (Prod.mk.inj (Except.ok.inj credentials)).2
  rw [splitHost_text isAuthority ends] at split
  obtain rfl := (Prod.mk.inj split).1
  exact isHost

theorem text_ne_nil_of_special {host : Host} (special : type.isSpecial = true)
    (isHost : host.IsHost type) : host.text ≠ [] ∧ host.isEmpty = false := by
  cases isHost with
  | domain _ nonempty => exact ⟨nonempty, by simpa [Host.isEmpty] using nonempty⟩
  | encoded ordinary =>
      rw [ordinary] at special
      cases special
  | @ipv4 value =>
      refine ⟨?_, rfl⟩
      intro empty
      have number := endsInNumber_ipv4Text value
      rw [show ipv4Text value = [] from empty] at number
      cases number
  | ipv6 => exact ⟨by simp [Host.text], rfl⟩

theorem reads_text (isAuthority : authority.IsAuthority type scheme) (ends : Ends type rest)
    (isHost : Host.read type authority.host.text = .ok authority.host) :
    ReadsAuthority type scheme (authority.text ++ rest) authority rest := by
  have isPort := readPortPart_text isAuthority ends
  refine ⟨⟨_, _, _, readCredentials_text isAuthority ends, splitHost_text isAuthority ends,
    ?_, isHost, ?_, isPort⟩, ?_⟩
  · intro missing
    obtain ⟨special, isEmpty⟩ := Bool.and_eq_true_iff.mp missing
    apply (text_ne_nil_of_special special isAuthority.host).1
    exact List.isEmpty_iff.mp isEmpty
  · intro portAlone
    obtain ⟨isEmpty, colon⟩ := Bool.and_eq_true_iff.mp portAlone
    obtain ⟨-, -, noPort⟩ := isAuthority.bare isEmpty
    rw [Authority.portText, noPort] at colon
    exact head?_ne_colon ends colon
  · intro userAlone
    obtain ⟨isEmpty, isUser⟩ := Bool.and_eq_true_iff.mp userAlone
    obtain ⟨noUser, noPassword, -⟩ := isAuthority.bare isEmpty
    rw [noUser, noPassword] at isUser
    cases isUser

theorem servedSegments_text (notFile : type ≠ .file)
    (isPath : (segments = [] ∧ type.isSpecial = false) ∨ IsPath type segments) :
    servedSegments type (Path.rooted segments).text = segments := by
  rcases isPath with ⟨rfl, ordinary⟩ | isPath
  · rw [servedSegments, ordinary]
    rfl
  · have written : (Path.rooted segments).text = '/' :: joined segments :=
      flatMap_slash isPath.nonempty
    rw [written, servedSegments]
    exact readPath_joined isPath notFile

/-- An address with an authority is read as it was written exactly when its host is. -/
theorem readAuthority_text_iff (notFile : type ≠ .file)
    (isAuthority : authority.IsAuthority type scheme)
    (isPath : (segments = [] ∧ type.isSpecial = false) ∨ IsPath type segments)
    (isTail : IsTail type query fragment) :
    readAuthority type scheme
        (authority.text ++ ((Path.rooted segments).text ++ tailText query fragment)) =
      .ok ⟨scheme, some authority, .rooted segments, query, fragment⟩ ↔
    authority.host.IsSettled type := by
  rw [← Host.read_text_iff isAuthority.host]
  constructor
  · intro found
    obtain ⟨other, left, reads, same⟩ := reads_of_readAuthority found
    obtain rfl : other = authority := Option.some_inj.mp (congrArg Url.authority same)
    exact host_of_reads isAuthority ends_path reads
  · intro isHost
    have chars : ∀ segment ∈ segments, ∀ c ∈ segment, isSegmentChar type c = true := by
      rcases isPath with ⟨rfl, -⟩ | isPath
      · simp
      · exact isPath.chars
    rw [readAuthority_of_reads (reads_text isAuthority ends_path isHost), finishServed,
      splitPathText_tailText (inPath_segments chars), servedSegments_text notFile isPath,
      finish_tailText isTail]

/-- Under a special scheme all slashes before the authority are dropped. -/
theorem dropWhile_isSlash_text (isAuthority : authority.IsAuthority .special scheme) :
    ('/' :: '/' :: authority.text ++ rest).dropWhile isSlash = authority.text ++ rest := by
  have nonempty : authority.text ≠ [] := by
    intro empty
    rw [Authority.text_eq, List.append_eq_nil_iff, Authority.hostText,
      List.append_eq_nil_iff] at empty
    exact (text_ne_nil_of_special rfl isAuthority.host).1 empty.2.1
  obtain ⟨first, others, isCons⟩ := List.exists_cons_of_ne_nil nonempty
  have inside := endsAuthority_text isAuthority first (by rw [isCons]; exact List.mem_cons_self)
  have noSlash : isSlash first = false := by
    simp only [endsAuthority, Bool.or_eq_false_iff, Bool.and_eq_false_iff] at inside
    simpa [isSlash, SchemeType.isSpecial] using And.intro inside.1.1.1 inside.2
  rw [isCons, List.cons_append, List.cons_append, List.dropWhile_cons_of_pos rfl,
    List.dropWhile_cons_of_pos rfl, List.cons_append,
    List.dropWhile_cons_of_neg (by simp [noSlash])]

end Authority

section File

variable {host : Host}

/-- A file address is finished as it was written when its host and its segments are kept. -/
theorem finishFile_text_iff {other : Host} {pathText : List Char}
    (inPath : ∀ c ∈ pathText, c ≠ '?' ∧ c ≠ '#') (isTail : IsTail .file query fragment) :
    finishFile other (pathText ++ tailText query fragment) =
      ⟨"file".toList, some (fileAuthority host), .rooted segments, query, fragment⟩ ↔
    (if (readPath .file pathText).hostDropped then .name [] else other) = host ∧
      (readPath .file pathText).segments = segments := by
  rw [finishFile, splitPathText_tailText inPath]
  dsimp only
  rw [finish_tailText isTail]
  simp [fileAuthority]

theorem authority_finishFile_nil (text : List Char) :
    (finishFile (.name []) text).authority = some (fileAuthority (.name [])) := by
  rw [finishFile]
  dsimp only [finish]
  rw [ite_self]

theorem readFileHost_nil {first : Char} (ends : isSlash first = true) :
    readFileHost (first :: rest) = .ok (finishFile (.name []) (first :: rest)) := by
  have isEnd : first = '/' ∨ first = '\\' := by simpa [isSlash] using ends
  rcases isEnd with rfl | rfl
  · simp [readFileHost, isDriveLetter, pure, Except.pure]
  · simp [readFileHost, isDriveLetter, pure, Except.pure]

/-- No host looks like a drive letter. -/
theorem isDriveLetter_host (isHost : host.IsHost type) : isDriveLetter host.text = false := by
  rw [Bool.eq_false_iff]
  intro isDrive
  obtain ⟨letter, mark, written, isLetter, isMark⟩ := isDriveLetter_iff.mp isDrive
  rcases Host.isHost_cases isHost with plain | ⟨body, bracketed, -⟩
  · obtain ⟨isHostChar, noColon, -⟩ := plain mark (by simp [written])
    rcases isMark with rfl | rfl
    · exact noColon rfl
    · cases isHostChar
  · rw [written] at bracketed
    obtain rfl := (List.cons.inj bracketed).1
    cases isLetter

theorem readFileHost_text (isHost : host.IsHost .file) :
    readFileHost (host.text ++ '/' :: rest) = do
      let other ← Host.read .file host.text
      if other = .name "localhost".toList then return finishFile (.name []) ('/' :: rest)
      else return finishFile other rest := by
  have inside : ∀ c ∈ host.text, (!(c == '/' || c == '\\' || c == '?' || c == '#')) = true := by
    intro c member
    have isHostChar := Host.isHostChar_of_mem isHost c member
    have other : c ∉ "/\\?#".toList := Text.not_mem_of_test isHostChar (by decide)
    simpa [and_assoc] using other
  have stop : ∀ c ∈ ('/' :: rest).head?,
      (!(c == '/' || c == '\\' || c == '?' || c == '#')) = false := by
    rintro c ⟨⟩
    rfl
  obtain ⟨taken, left⟩ := Text.takeWhile_append_stop inside stop
  have nonempty : host.text.isEmpty = false := by
    simpa using (text_ne_nil_of_special rfl isHost).1
  rw [readFileHost]
  dsimp only
  rw [taken, left, isDriveLetter_host isHost, nonempty]
  rfl

theorem readFileHost_text_iff (isHost : host.IsHost .file)
    (notLocal : host ≠ .name "localhost".toList) (isPath : IsPath .file segments)
    (isTail : IsTail .file query fragment) :
    readFileHost (host.text ++ '/' :: (joined segments ++ tailText query fragment)) =
      .ok ⟨"file".toList, some (fileAuthority host), .rooted segments, query, fragment⟩ ↔
    host.IsSettled .file ∧ ∀ segment ∈ segments.head?, isDriveLetter segment = false := by
  have present : host ≠ .name [] := by
    rintro rfl
    cases (text_ne_nil_of_special rfl isHost).2
  have inPath := inPath_joined isPath
  rw [readFileHost_text isHost, ← Host.read_text_iff isHost, ← readPath_joined_iff isPath,
    bind_eq_ok_iff]
  constructor
  · rintro ⟨other, isOther, found⟩
    split at found
    · -- The local host is dropped, but the address has a host.
      have same := congrArg Url.authority (pure_eq_ok_iff.mp found)
      rw [authority_finishFile_nil] at same
      exact absurd (congrArg Authority.host (Option.some_inj.mp same)).symm present
    · obtain ⟨sameHost, same⟩ := (finishFile_text_iff inPath isTail).mp (pure_eq_ok_iff.mp found)
      split at sameHost
      · exact absurd sameHost.symm present
      · next kept =>
          obtain rfl := sameHost
          exact ⟨isOther, same, by simpa using kept⟩
  · rintro ⟨isHost, same, kept⟩
    refine ⟨host, isHost, ?_⟩
    rw [if_neg notLocal, pure_eq_ok_iff, finishFile_text_iff inPath isTail, kept]
    exact ⟨rfl, same⟩

/-- Behind no host, a file address is read as it was written. -/
theorem readFileHost_empty (isPath : IsPath .file segments)
    (isTail : IsTail .file query fragment) :
    readFileHost ('/' :: (joined segments ++ tailText query fragment)) =
      .ok ⟨"file".toList, some (fileAuthority (.name [])), .rooted segments, query, fragment⟩ := by
  have inPath : ∀ c ∈ '/' :: joined segments, c ≠ '?' ∧ c ≠ '#' := by
    rw [← flatMap_slash isPath.nonempty]
    exact inPath_segments isPath.chars
  rw [readFileHost_nil rfl, Except.ok.injEq, ← List.cons_append,
    finishFile_text_iff inPath isTail, ite_self]
  exact ⟨rfl, readPath_slash isPath⟩

theorem isSettled_nil : Host.IsSettled type (.name []) := by
  rintro name ⟨⟩ - ⟨label, isLabel, isMarked⟩
  obtain rfl := List.mem_singleton.mp isLabel
  cases isMarked

theorem readFile_text_iff (isHost : IsFileHost host) (isPath : IsPath .file segments)
    (isTail : IsTail .file query fragment) :
    readFile ('/' :: '/' :: (host.text ++ '/' :: (joined segments ++ tailText query fragment))) =
      .ok ⟨"file".toList, some (fileAuthority host), .rooted segments, query, fragment⟩ ↔
    IsStable ⟨"file".toList, some (fileAuthority host), .rooted segments, query, fragment⟩ := by
  change readFileHost _ = _ ↔ _
  rcases isHost with rfl | ⟨isHost, notLocal⟩
  · rw [Host.text, List.nil_append]
    refine iff_of_true (readFileHost_empty isPath isTail) ⟨?_, ?_⟩
    · rintro - authority ⟨⟩ ⟨⟩
    · rintro authority ⟨⟩
      exact isSettled_nil
  · rw [readFileHost_text_iff isHost notLocal isPath isTail]
    constructor
    · rintro ⟨settled, noDrive⟩
      refine ⟨?_, ?_⟩
      · rintro - authority ⟨⟩ -
        exact noDrive
      · rintro authority ⟨⟩
        exact settled
    · intro stable
      have present := (text_ne_nil_of_special rfl isHost).2
      exact ⟨stable.host _ rfl, stable.drive rfl _ rfl present⟩

end File

section Ordinary

theorem not_file_of_ofScheme (isType : SchemeType.ofScheme scheme = type) (notFile : type ≠ .file) :
    scheme ≠ "file".toList := by
  rintro rfl
  exact notFile isType.symm

/-- Outside file addresses only a domain name can be in the way. -/
theorem isStable_iff_isSettled {authority : Authority}
    (isType : SchemeType.ofScheme scheme = type) (notFile : type ≠ .file) :
    IsStable ⟨scheme, some authority, .rooted segments, query, fragment⟩ ↔
      authority.host.IsSettled type := by
  constructor
  · intro stable
    rw [← isType]
    exact stable.host authority rfl
  · intro settled
    refine ⟨?_, ?_⟩
    · intro isFile
      exact absurd isFile (not_file_of_ofScheme isType notFile)
    · rintro other ⟨⟩
      rw [isType]
      exact settled

theorem isStable_of_none (path : Path) : IsStable ⟨scheme, none, path, query, fragment⟩ := by
  refine ⟨?_, ?_⟩
  · rintro - authority ⟨⟩
  · rintro authority ⟨⟩

theorem readOrdinary_slash {text : List Char} (noSlash : text.head? ≠ some '/') :
    readOrdinary scheme ('/' :: text) =
      .ok (finish .ordinary scheme none
        (.rooted (readPath .ordinary (splitPathText text).1).segments) (splitPathText text).2) := by
  unfold readOrdinary
  split
  · next others same =>
      cases same
      exact absurd rfl noSlash
  · next same =>
      cases same
      rfl
  · next other => exact absurd rfl (other text)

theorem readOrdinary_noSlash {text : List Char} (noSlash : text.head? ≠ some '/') :
    readOrdinary scheme text =
      .ok (finish .ordinary scheme none (.plain (percentEncode isControl (splitPathText text).1))
        (splitPathText text).2) := by
  unfold readOrdinary
  split
  · exact absurd rfl noSlash
  · exact absurd rfl noSlash
  · rfl

theorem head?_append_tailText {text : List Char} (noSlash : text.head? ≠ some '/') :
    (text ++ tailText query fragment).head? ≠ some '/' := by
  cases text with
  | cons c others => exact noSlash
  | nil =>
      intro isHead
      rcases head?_tailText '/' isHead with same | same
      · cases same
      · cases same

/-- A path that begins with two slashes is read behind the point that is written before it. -/
theorem readOrdinary_rooted (scheme : List Char) (isPath : IsPath .ordinary segments)
    (isTail : IsTail .ordinary query fragment) :
    readOrdinary scheme (body ⟨scheme, none, .rooted segments, query, fragment⟩) =
      .ok ⟨scheme, none, .rooted segments, query, fragment⟩ := by
  have notFile : SchemeType.ordinary ≠ .file := by decide
  have written : (Path.rooted segments).text = '/' :: joined segments :=
    flatMap_slash isPath.nonempty
  have inPath := inPath_joined isPath
  rw [body, authorityText]
  dsimp only
  rw [written]
  by_cases slashes : ['/', '/'].isPrefixOf ('/' :: joined segments) = true
  · have inPointed : ∀ c ∈ '.' :: '/' :: joined segments, c ≠ '?' ∧ c ≠ '#' := by
      intro c member
      rcases List.mem_cons.mp member with rfl | later
      · decide
      · rcases List.mem_cons.mp later with rfl | inside
        · decide
        · exact inPath c inside
    have split : splitPathText ('.' :: '/' :: joined segments ++ tailText query fragment) =
        ('.' :: '/' :: joined segments, tailText query fragment) :=
      splitPathText_tailText inPointed
    rw [if_pos slashes]
    change readOrdinary scheme
      ('/' :: ('.' :: '/' :: joined segments ++ tailText query fragment)) = _
    rw [readOrdinary_slash (by simp), split, readPath_point isPath notFile, finish_tailText isTail]
  · have noSlash : (joined segments).head? ≠ some '/' := by
      intro isHead
      obtain ⟨others, behind⟩ := List.head?_eq_some_iff.mp isHead
      rw [behind] at slashes
      exact slashes rfl
    rw [if_neg slashes, List.nil_append, List.cons_append,
      readOrdinary_slash (head?_append_tailText noSlash), splitPathText_tailText inPath,
      readPath_joined isPath notFile, finish_tailText isTail]

theorem readOrdinary_plain (scheme : List Char) {text : List Char}
    (isPlain : IsPlain text query fragment) (isTail : IsTail .ordinary query fragment) :
    readOrdinary scheme (text ++ tailText query fragment) =
      .ok ⟨scheme, none, .plain text, query, fragment⟩ := by
  have inPath : ∀ c ∈ text, c ≠ '?' ∧ c ≠ '#' := fun c member => (isPlain.chars c member).2
  have kept : percentEncode isControl text = text :=
    percentEncode_eq_self fun c member => (isPlain.chars c member).1
  rw [readOrdinary_noSlash (head?_append_tailText isPlain.start), splitPathText_tailText inPath,
    kept, finish_tailText isTail]

end Ordinary

/-- An address that was read is read as it was written exactly when it is stable. -/
theorem read_text_iff {url : Url} (isAddress : IsAddress url) :
    read url.text = .ok url ↔ url.IsStable := by
  rw [read_text isAddress]
  cases isAddress with
  | @file host segments query fragment isHost isPath isTail =>
      rw [body, authorityText]
      dsimp only
      rw [fileAuthority_text, Path.text, flatMap_slash isPath.nonempty]
      exact readFile_text_iff isHost isPath isTail
  | special isScheme isType isAuthority isPath isTail =>
      have notFile : SchemeType.special ≠ .file := by decide
      dsimp only
      rw [isStable_iff_isSettled isType notFile, isType,
        ← readAuthority_text_iff notFile isAuthority (.inr isPath) isTail]
      dsimp only
      rw [body, authorityText, dropWhile_isSlash_text isAuthority]
  | @served scheme authority segments query fragment isScheme isType isAuthority isPath isTail =>
      have notFile : SchemeType.ordinary ≠ .file := by decide
      dsimp only
      rw [isStable_iff_isSettled isType notFile, isType,
        ← readAuthority_text_iff notFile isAuthority (isPath.imp_left fun none => ⟨none, rfl⟩)
          isTail]
      rfl
  | @rooted scheme segments query fragment isScheme isType isPath isTail =>
      have read := readOrdinary_rooted scheme isPath isTail
      dsimp only
      rw [isType]
      exact iff_of_true read (isStable_of_none _)
  | @plain scheme text query fragment isScheme isType isPlain isTail =>
      have read := readOrdinary_plain scheme isPlain isTail
      dsimp only
      rw [isType, body, authorityText_plain isPlain.start]
      exact iff_of_true read (isStable_of_none _)

end TypedEnv.Url
