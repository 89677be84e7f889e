import TypedEnv.Proofs.Url.Authority
import TypedEnv.Proofs.Url.Parts
import TypedEnv.Proofs.Url.Path

/-!
# Addresses that were read

What an address that was read looks like depends on its scheme.  The five
shapes below are the five ways in which an address can be read, and every
address that was read has one of them.
-/

namespace TypedEnv.Url

/-- Whether a host can stand in a file address, where the local host is not written. -/
def IsFileHost (host : Host) : Prop :=
  host = .name [] ∨ (host.IsHost .file ∧ host ≠ .name "localhost".toList)

/-- A path text without any structure.  A blank can end it only when something follows. -/
structure IsPlain (text : List Char) (query fragment : Option (List Char)) : Prop where
  chars : ∀ c ∈ text, isControl c = false ∧ c ≠ '?' ∧ c ≠ '#'
  start : text.head? ≠ some '/'
  last : query = none → fragment = none → text.getLast? ≠ some ' '

/-- The shapes of addresses that were read. -/
inductive IsAddress : Url → Prop where
  | file {host segments query fragment} (isHost : IsFileHost host)
      (isPath : IsPath .file segments) (isTail : IsTail .file query fragment) :
      IsAddress ⟨"file".toList, some (fileAuthority host), .rooted segments, query, fragment⟩
  | special {scheme authority segments query fragment} (isScheme : IsScheme scheme)
      (isType : SchemeType.ofScheme scheme = .special)
      (isAuthority : authority.IsAuthority .special scheme)
      (isPath : IsPath .special segments) (isTail : IsTail .special query fragment) :
      IsAddress ⟨scheme, some authority, .rooted segments, query, fragment⟩
  | served {scheme authority segments query fragment} (isScheme : IsScheme scheme)
      (isType : SchemeType.ofScheme scheme = .ordinary)
      (isAuthority : authority.IsAuthority .ordinary scheme)
      (isPath : segments = [] ∨ IsPath .ordinary segments)
      (isTail : IsTail .ordinary query fragment) :
      IsAddress ⟨scheme, some authority, .rooted segments, query, fragment⟩
  | rooted {scheme segments query fragment} (isScheme : IsScheme scheme)
      (isType : SchemeType.ofScheme scheme = .ordinary)
      (isPath : IsPath .ordinary segments) (isTail : IsTail .ordinary query fragment) :
      IsAddress ⟨scheme, none, .rooted segments, query, fragment⟩
  | plain {scheme text query fragment} (isScheme : IsScheme scheme)
      (isType : SchemeType.ofScheme scheme = .ordinary)
      (isPlain : IsPlain text query fragment) (isTail : IsTail .ordinary query fragment) :
      IsAddress ⟨scheme, none, .plain text, query, fragment⟩

variable {type : SchemeType} {scheme text : List Char} {url : Url}

theorem finish_eq (type : SchemeType) (scheme : List Char) (authority : Option Authority)
    (path : Path) (text : List Char) : finish type scheme authority path text =
      ⟨scheme, authority, path, (finish type scheme authority path text).query,
        (finish type scheme authority path text).fragment⟩ := rfl

theorem isHost_of_readFileHost {host : Host} (dropped : Bool) (isHost : IsFileHost host) :
    IsFileHost (if dropped then .name [] else host) := by
  cases dropped with
  | true => exact .inl rfl
  | false => exact isHost

theorem isAddress_finishFile {host : Host} (isHost : IsFileHost host) (text : List Char) :
    IsAddress (finishFile host text) := by
  rw [finishFile]
  dsimp only
  rw [finish_eq]
  exact .file (isHost_of_readFileHost _ isHost) (isPath_readPath _ _) (isTail_finish _)

theorem isAddress_readFileHost (found : readFileHost text = .ok url) : IsAddress url := by
  rw [readFileHost] at found
  split at found
  · cases found
    exact isAddress_finishFile (.inl rfl) _
  · split at found
    · cases found
      exact isAddress_finishFile (.inl rfl) _
    · obtain ⟨host, isHost, found⟩ := bind_eq_ok_iff.mp found
      split at found
      · cases found
        exact isAddress_finishFile (.inl rfl) _
      · next notLocal =>
          cases found
          exact isAddress_finishFile (.inr ⟨Host.isHost_read isHost, notLocal⟩) _

theorem isAddress_readFile (found : readFile text = .ok url) : IsAddress url := by
  unfold readFile at found
  split at found
  · split at found
    · exact isAddress_readFileHost found
    · cases found
      exact isAddress_finishFile (.inl rfl) _
  · cases found
    exact isAddress_finishFile (.inl rfl) _

section Authority

variable {authority : Authority} {rest : List Char}

/-- A port behind a colon, or none. -/
def readPortPart (scheme text : List Char) : Except UrlError (Option Nat × List Char) :=
  if text.head? == some ':' then readPort scheme (text.drop 1) else .ok (none, text)

/-- The path that follows an authority. -/
def servedSegments (type : SchemeType) (pathText : List Char) : List (List Char) :=
  if pathText.isEmpty && !type.isSpecial then []
  else (readPath type (dropSeparator type pathText)).segments

/-- The parts that are found behind the slashes before an authority. -/
structure ReadsAuthority (type : SchemeType) (scheme text : List Char) (authority : Authority)
    (rest : List Char) : Prop where
  parts : ∃ afterUser hostText afterHost,
    readCredentials type text = .ok ((authority.user, authority.password), afterUser) ∧
    splitHost type false afterUser = (hostText, afterHost) ∧
    ¬ (type.isSpecial && hostText.isEmpty) = true ∧
    Host.read type hostText = .ok authority.host ∧
    ¬ (authority.host.isEmpty && afterHost.head? == some ':') = true ∧
    readPortPart scheme afterHost = .ok (authority.port, rest)
  bare : ¬ (authority.host.isEmpty && !(authority.user.isEmpty && authority.password.isEmpty)) =
    true

/-- What is left behind an authority is its path, its query and its fragment. -/
def finishServed (type : SchemeType) (scheme : List Char) (authority : Authority)
    (rest : List Char) : Url :=
  finish type scheme (some authority) (.rooted (servedSegments type (splitPathText rest).1))
    (splitPathText rest).2

theorem reads_of_readAuthority (found : readAuthority type scheme text = .ok url) :
    ∃ authority rest, ReadsAuthority type scheme text authority rest ∧
      finishServed type scheme authority rest = url := by
  rw [readAuthority] at found
  obtain ⟨⟨⟨user, password⟩, afterUser⟩, credentials, found⟩ := bind_eq_ok_iff.mp found
  dsimp only at found
  split at found
  · cases found
  · next present =>
    obtain ⟨host, isHost, found⟩ := bind_eq_ok_iff.mp found
    split at found
    · cases found
    · next portAllowed =>
      have finished : ∀ port afterPort,
          readPortPart scheme (splitHost type false afterUser).2 = .ok (port, afterPort) →
          ¬ (host.isEmpty && !(user.isEmpty && password.isEmpty)) = true →
          ∃ authority rest, ReadsAuthority type scheme text authority rest ∧
            finishServed type scheme authority rest =
              finishServed type scheme ⟨user, password, host, port⟩ afterPort := by
        intro port afterPort isPort bare
        exact ⟨⟨user, password, host, port⟩, afterPort, ⟨⟨afterUser, _, _, credentials, rfl,
          present, isHost, portAllowed, isPort⟩, bare⟩, rfl⟩
      split at found
      · next colon =>
          obtain ⟨⟨port, rest⟩, isPort, found⟩ := bind_eq_ok_iff.mp found
          split at found
          · cases found
          · next bare =>
              obtain rfl := pure_eq_ok_iff.mp found
              exact finished port rest (by rw [readPortPart, if_pos colon, isPort]) bare
      · next noColon =>
          obtain ⟨⟨port, rest⟩, isPort, found⟩ := bind_eq_ok_iff.mp found
          cases isPort
          split at found
          · cases found
          · next bare =>
              obtain rfl := pure_eq_ok_iff.mp found
              exact finished none _ (by rw [readPortPart, if_neg noColon]) bare

theorem readAuthority_of_reads {authority : Authority} {rest : List Char}
    (reads : ReadsAuthority type scheme text authority rest) :
    readAuthority type scheme text = .ok (finishServed type scheme authority rest) := by
  obtain ⟨user, password, host, port⟩ := authority
  obtain ⟨⟨afterUser, hostText, afterHost, credentials, isSplit, present, isHost, portAllowed,
    isPort⟩, bare⟩ := reads
  rw [readAuthority]
  refine bind_eq_ok_iff.mpr ⟨_, credentials, ?_⟩
  dsimp only
  rw [isSplit]
  dsimp only
  rw [if_neg present]
  refine bind_eq_ok_iff.mpr ⟨_, isHost, ?_⟩
  rw [if_neg portAllowed]
  rw [readPortPart] at isPort
  split at isPort
  · next colon =>
    rw [if_pos colon]
    refine bind_eq_ok_iff.mpr ⟨_, isPort, ?_⟩
    rw [if_neg bare]
    rfl
  · next noColon =>
    cases isPort
    rw [if_neg noColon]
    refine bind_eq_ok_iff.mpr ⟨_, rfl, ?_⟩
    rw [if_neg bare]
    rfl

/-- What every authority that is found has in common. -/
theorem isAuthority_of_reads (reads : ReadsAuthority type scheme text authority rest) :
    authority.IsAuthority type scheme := by
  obtain ⟨⟨afterUser, hostText, afterHost, credentials, -, -, isHost, portAllowed, isPort⟩,
    bare⟩ := reads
  obtain ⟨user, password⟩ := kept_of_readCredentials credentials
  have withoutColon : ¬ (afterHost.head? == some ':') = true → authority.port = none := by
    intro noColon
    rw [readPortPart, if_neg noColon] at isPort
    exact (Prod.mk.inj (Except.ok.inj isPort)).1.symm
  refine ⟨user, password, Host.isHost_read isHost, ?_, ?_⟩
  · by_cases colon : (afterHost.head? == some ':') = true
    · rw [readPortPart, if_pos colon] at isPort
      exact port_of_readPort isPort
    · simp [withoutColon colon]
  · intro isEmpty
    have nothing : authority.user = [] ∧ authority.password = [] := by simpa [isEmpty] using bare
    exact ⟨nothing.1, nothing.2, withoutColon (by simpa [isEmpty] using portAllowed)⟩

theorem isPath_servedSegments (type : SchemeType) (pathText : List Char) :
    (servedSegments type pathText = [] ∧ type.isSpecial = false) ∨
      IsPath type (servedSegments type pathText) := by
  rw [servedSegments]
  split
  · next none => exact .inl ⟨rfl, by simpa using (Bool.and_eq_true_iff.mp none).2⟩
  · exact .inr (isPath_readPath _ _)

end Authority

theorem isAddress_special (isScheme : IsScheme scheme)
    (isType : SchemeType.ofScheme scheme = .special)
    (found : readAuthority .special scheme text = .ok url) : IsAddress url := by
  obtain ⟨authority, rest, reads, rfl⟩ := reads_of_readAuthority found
  rw [finishServed, finish_eq]
  rcases isPath_servedSegments .special (splitPathText rest).1 with ⟨-, ordinary⟩ | isPath
  · cases ordinary
  · exact .special isScheme isType (isAuthority_of_reads reads) isPath (isTail_finish _)

theorem isAddress_served (isScheme : IsScheme scheme)
    (isType : SchemeType.ofScheme scheme = .ordinary)
    (found : readAuthority .ordinary scheme text = .ok url) : IsAddress url := by
  obtain ⟨authority, rest, reads, rfl⟩ := reads_of_readAuthority found
  rw [finishServed, finish_eq]
  exact .served isScheme isType (isAuthority_of_reads reads)
    ((isPath_servedSegments _ _).imp_left And.left) (isTail_finish _)

/-- A text is its path when no query and no fragment are found in it. -/
theorem splitPathText_whole {authority : Option Authority} {path : Path}
    (noQuery : (finish type scheme authority path (splitPathText text).2).query = none)
    (noFragment : (finish type scheme authority path (splitPathText text).2).fragment = none) :
    (splitPathText text).1 = text := by
  have starts : ∀ c ∈ (splitPathText text).2.head?, c = '?' ∨ c = '#' := by
    intro c isHead
    have stops := List.head?_dropWhile_not (fun c => c != '?' && c != '#') text
    have same : (text.dropWhile fun c => c != '?' && c != '#').head? = some c := isHead
    rw [same] at stops
    by_cases question : c = '?'
    · exact .inl question
    · exact .inr (by simpa [question] using stops)
  have nothing : (splitPathText text).2 = [] := eq_nil_of_finish starts noQuery noFragment
  have whole : (splitPathText text).1 ++ (splitPathText text).2 = text :=
    List.takeWhile_append_dropWhile
  rwa [nothing, List.append_nil] at whole

theorem isPlain_finish (noSlash : text.head? ≠ some '/') (last : text.getLast? ≠ some ' ')
    (authority : Option Authority) (path : Path) :
    IsPlain (percentEncode isControl (splitPathText text).1)
      (finish type scheme authority path (splitPathText text).2).query
      (finish type scheme authority path (splitPathText text).2).fragment := by
  have escapes : ∀ c ∈ escapeChars, isControl c = false ∧ c ≠ '?' ∧ c ≠ '#' ∧ c ≠ ' ' :=
    Text.forall_mem_of_all (by decide)
  refine ⟨?_, ?_, ?_⟩
  · intro c member
    rcases of_mem_percentEncode member with ⟨inText, kept⟩ | isEscape
    · have inPath := List.mem_takeWhile_imp inText
      exact ⟨kept, by simpa using inPath⟩
    · obtain ⟨kept, noQuestion, noNumber, -⟩ := escapes c isEscape
      exact ⟨kept, noQuestion, noNumber⟩
  · intro isHead
    rcases head?_percentEncode isHead with inText | same
    · rw [splitPathText, List.head?_takeWhile] at inText
      exact noSlash (Option.filter_eq_some_iff.mp inText).1
    · cases same
  · intro noQuery noFragment isLast
    rcases getLast?_percentEncode isLast with inText | isEscape
    · rw [splitPathText_whole noQuery noFragment] at inText
      exact last inText
    · exact (escapes _ isEscape).2.2.2 rfl

theorem isAddress_readOrdinary (isScheme : IsScheme scheme)
    (isType : SchemeType.ofScheme scheme = .ordinary)
    (last : text.getLast? ≠ some ' ')
    (found : readOrdinary scheme text = .ok url) : IsAddress url := by
  unfold readOrdinary at found
  split at found
  · exact isAddress_served isScheme isType found
  · cases found
    rw [finish_eq]
    exact .rooted isScheme isType (isPath_readPath _ _) (isTail_finish _)
  · next noSlash =>
      cases found
      rw [finish_eq]
      refine .plain isScheme isType (isPlain_finish ?_ last _ _) (isTail_finish _)
      intro isHead
      obtain ⟨others, rfl⟩ := List.head?_eq_some_iff.mp isHead
      exact noSlash others rfl

theorem getLast?_rest {rest : List Char} (last : text.getLast? ≠ some ' ')
    (isScheme : readScheme? text = some (scheme, rest)) : rest.getLast? ≠ some ' ' := by
  unfold readScheme? at isScheme
  split at isScheme
  · next behind =>
      cases isScheme
      intro isLast
      have suffix := List.dropWhile_suffix (l := text) isSchemeChar
      rw [behind] at suffix
      apply last
      obtain ⟨before, rfl⟩ := suffix
      simp [List.getLast?_append, List.getLast?_cons, isLast]
  · cases isScheme

/-- Every address that was read has one of the shapes. -/
theorem isAddress_read (found : read text = .ok url) : IsAddress url := by
  rw [read] at found
  split at found
  · cases found
  · next scheme rest isScheme =>
      have last : rest.getLast? ≠ some ' ' := getLast?_rest (getLast?_significant text) isScheme
      have valid := isScheme_readScheme? isScheme
      split at found
      · exact isAddress_readFile found
      · next isType => exact isAddress_special valid isType found
      · next isType => exact isAddress_readOrdinary valid isType last found

end TypedEnv.Url
