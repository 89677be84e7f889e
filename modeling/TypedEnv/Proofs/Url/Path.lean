import Mathlib.Data.List.Basic
import TypedEnv.Proofs.Text.Characters
import TypedEnv.Proofs.Text.Split
import TypedEnv.Proofs.Url.Percent
import TypedEnv.Url.Path

/-!
# Paths that are read again

The segments of a path are joined with slashes and read again.  A segment that
names a place is never kept, so nothing changes unless a drive letter is the
first segment behind the host of a file address.
-/

namespace TypedEnv.Url

/-- Whether a segment names the place where it is found or the place above. -/
def isDot (segment : List Char) : Bool :=
  isSingleDot segment || isDoubleDot segment

theorem isDriveLetter_iff {segment : List Char} : isDriveLetter segment = true ↔
    ∃ letter mark,
      segment = [letter, mark] ∧ letter.isAlpha = true ∧ (mark = ':' ∨ mark = '|') := by
  constructor
  · intro isDrive
    unfold isDriveLetter at isDrive
    split at isDrive
    · next letter mark => exact ⟨letter, mark, rfl, by simpa using isDrive⟩
    · cases isDrive
  · rintro ⟨letter, mark, rfl, isLetter, isMark⟩
    simp [isDriveLetter, isLetter, isMark]

theorem isDot_drive {segment : List Char} (isDrive : isDriveLetter segment = true) :
    isDot segment = false := by
  obtain ⟨letter, mark, rfl, isLetter, -⟩ := isDriveLetter_iff.mp isDrive
  have notPoint : letter ≠ '.' := by
    rintro rfl
    cases isLetter
  have resolved : resolveDots [letter, mark] = [letter, mark] := by
    unfold resolveDots
    split
    · next equality => simp at equality
    · next equality => exact absurd (List.cons.inj equality).1 notPoint
    · rfl
  simp [isDot, isSingleDot, isDoubleDot, resolved, notPoint]

namespace PathReader

variable {isFile isLast : Bool} {reader : PathReader} {segment : List Char}

/-- What is pushed in place of a segment that names a place. -/
def closing (isLast : Bool) : List (List Char) :=
  if isLast then [[]] else []

theorem isDot_of_mem_closing : ∀ closed ∈ closing isLast, isDot closed = false := by
  intro closed member
  unfold closing at member
  split at member
  · obtain rfl := List.mem_singleton.mp member
    rfl
  · cases member

/-- What a step can do with a segment.  Only the first segment of a file path is looked at for a
drive letter. -/
inductive StepResult (isFile isLast : Bool) (reader : PathReader) (segment : List Char) :
    PathReader → Prop where
  | stay (dot : isDot segment = true) :
      StepResult isFile isLast reader segment (reader.push (closing isLast))
  | up (dot : isDot segment = true) :
      StepResult isFile isLast reader segment (reader.ascend.push (closing isLast))
  | drive (file : isFile = true) (atStart : reader.segments = [])
      (isDrive : isDriveLetter segment = true) :
      StepResult isFile isLast reader segment ⟨[segment.take 1 ++ [':']], true⟩
  | keep (noDot : isDot segment = false)
      (noDrive : isFile = true → reader.segments = [] → isDriveLetter segment = false) :
      StepResult isFile isLast reader segment (reader.push [segment])

theorem stepResult (isFile isLast : Bool) (reader : PathReader) (segment : List Char) :
    StepResult isFile isLast reader segment (reader.step isFile isLast segment) := by
  rw [step]
  split
  · next double => exact .up (by simp [isDot, double])
  · next notDouble =>
      split
      · next single => exact .stay (by simp [isDot, single])
      · next notSingle =>
          split
          · next isDrive =>
              simp only [Bool.and_eq_true, List.isEmpty_iff] at isDrive
              exact .drive isDrive.1.1 isDrive.1.2 isDrive.2
          · next noDrive =>
              refine .keep (by simp [isDot, notSingle, notDouble]) ?_
              intro file atStart
              simpa [file, atStart] using noDrive

theorem step_keep (noDot : isDot segment = false)
    (noDrive : isFile = true → reader.segments = [] → isDriveLetter segment = false) :
    reader.step isFile isLast segment = reader.push [segment] := by
  have result := reader.stepResult isFile isLast segment
  generalize reader.step isFile isLast segment = next at result ⊢
  cases result with
  | stay dot => rw [noDot] at dot; cases dot
  | up dot => rw [noDot] at dot; cases dot
  | drive file atStart isDrive => rw [noDrive file atStart] at isDrive; cases isDrive
  | keep => rfl

/-- A first segment that is a drive letter drops the host. -/
theorem hostDropped_step_drive (isDrive : isDriveLetter segment = true) :
    (step true isLast ⟨[], false⟩ segment).hostDropped = true := by
  have result := PathReader.stepResult true isLast ⟨[], false⟩ segment
  generalize step true isLast ⟨[], false⟩ segment = next at result ⊢
  cases result with
  | stay dot => rw [isDot_drive isDrive] at dot; cases dot
  | up dot => rw [isDot_drive isDrive] at dot; cases dot
  | drive => rfl
  | keep _ noDrive => rw [noDrive rfl rfl] at isDrive; cases isDrive

theorem readAll_cons (isFile : Bool) (reader : PathReader) (segment : List Char)
    (rest : List (List Char)) :
    readAll isFile reader (segment :: rest) =
      readAll isFile (reader.step isFile rest.isEmpty segment) rest := by
  cases rest <;> rfl

/-- Segments that name no place are kept as they are. -/
theorem readAll_keep {segments : List (List Char)}
    (noDots : ∀ segment ∈ segments, isDot segment = false)
    (noDrive : isFile = true → reader.segments = [] →
      ∀ segment ∈ segments.head?, isDriveLetter segment = false) :
    readAll isFile reader segments = reader.push segments := by
  induction segments generalizing reader with
  | nil => simp [readAll, push]
  | cons segment rest induction =>
      have kept : reader.step isFile rest.isEmpty segment = reader.push [segment] :=
        step_keep (noDots segment List.mem_cons_self)
          fun file atStart => noDrive file atStart segment rfl
      rw [readAll_cons, kept, induction]
      · simp [push]
      · exact fun other member => noDots other (List.mem_cons_of_mem _ member)
      · intro _ atStart
        simp [push] at atStart

/-- A property that every step preserves is preserved by reading all segments. -/
theorem readAll_preserves {motive : PathReader → Prop} {segments : List (List Char)}
    (step : ∀ isLast reader, ∀ segment ∈ segments, motive reader →
      motive (reader.step isFile isLast segment))
    (start : motive reader) : motive (readAll isFile reader segments) := by
  induction segments generalizing reader with
  | nil => exact start
  | cons segment rest induction =>
      rw [readAll_cons]
      apply induction
      · exact fun isLast reader other member => step isLast reader other
          (List.mem_cons_of_mem _ member)
      · exact step rest.isEmpty reader segment List.mem_cons_self start

theorem ascend_prefix (reader : PathReader) : reader.ascend.segments <+: reader.segments := by
  rw [ascend]
  split
  · exact List.prefix_rfl
  · split
    · exact List.prefix_rfl
    · exact List.dropLast_prefix _

/-- Whether a reader has no segment that names a place. -/
def NoDots (reader : PathReader) : Prop :=
  ∀ segment ∈ reader.segments, isDot segment = false

theorem NoDots.push {segments : List (List Char)} (noDots : reader.NoDots)
    (others : ∀ segment ∈ segments, isDot segment = false) : (reader.push segments).NoDots := by
  intro segment member
  rcases List.mem_append.mp member with old | new
  · exact noDots segment old
  · exact others segment new

theorem NoDots.ascend (noDots : reader.NoDots) : reader.ascend.NoDots :=
  fun segment member => noDots segment (reader.ascend_prefix.subset member)

/-- No segment that names a place is ever kept. -/
theorem NoDots.step (noDots : reader.NoDots) : (reader.step isFile isLast segment).NoDots := by
  have result := reader.stepResult isFile isLast segment
  generalize reader.step isFile isLast segment = next at result ⊢
  cases result with
  | stay => exact noDots.push isDot_of_mem_closing
  | up => exact noDots.ascend.push isDot_of_mem_closing
  | drive _ _ isDrive =>
      obtain ⟨letter, mark, rfl, isLetter, -⟩ := isDriveLetter_iff.mp isDrive
      have written : isDriveLetter [letter, ':'] = true := by simp [isDriveLetter, isLetter]
      simpa [NoDots] using isDot_drive written
  | keep noDot => exact noDots.push (by simpa using noDot)

theorem NoDots.readAll {segments : List (List Char)} (noDots : reader.NoDots) :
    (readAll isFile reader segments).NoDots :=
  readAll_preserves (motive := NoDots) (fun _ _ _ _ noDots => noDots.step) noDots

theorem hostDropped_step (dropped : reader.hostDropped = true) :
    (reader.step isFile isLast segment).hostDropped = true := by
  have ascends : reader.ascend.hostDropped = true := by
    rw [ascend]
    split
    · exact dropped
    · split
      · exact dropped
      · exact dropped
  have result := reader.stepResult isFile isLast segment
  generalize reader.step isFile isLast segment = next at result ⊢
  cases result with
  | stay => exact dropped
  | up => exact ascends
  | drive => rfl
  | keep => exact dropped

theorem hostDropped_readAll {segments : List (List Char)} (dropped : reader.hostDropped = true) :
    (readAll isFile reader segments).hostDropped = true :=
  readAll_preserves (motive := fun reader => reader.hostDropped = true)
    (fun _ _ _ _ dropped => hostDropped_step dropped) dropped

/-- The last step leaves at least one segment. -/
theorem readAll_ne_nil {segments : List (List Char)} (nonempty : segments ≠ []) :
    (readAll isFile reader segments).segments ≠ [] := by
  induction segments generalizing reader with
  | nil => exact absurd rfl nonempty
  | cons segment rest induction =>
      rw [readAll_cons]
      cases rest with
      | cons next others => exact induction (by simp)
      | nil =>
          have result := reader.stepResult isFile true segment
          rw [readAll, List.isEmpty_nil]
          generalize reader.step isFile true segment = next at result ⊢
          cases result with
          | stay => simp [push, closing]
          | up => simp [push, closing]
          | drive => simp
          | keep => simp [push]

/-- The segments that a reader keeps consist of the characters that it reads, and of the colons
of drive letters. -/
theorem forall_mem_readAll {isAllowed : Char → Prop} {segments : List (List Char)}
    (colon : isAllowed ':') (read : ∀ segment ∈ segments, ∀ c ∈ segment, isAllowed c)
    (before : ∀ segment ∈ reader.segments, ∀ c ∈ segment, isAllowed c) :
    ∀ segment ∈ (readAll isFile reader segments).segments, ∀ c ∈ segment, isAllowed c := by
  apply readAll_preserves
    (motive := fun reader => ∀ segment ∈ reader.segments, ∀ c ∈ segment, isAllowed c)
  · intro isLast reader segment member before
    have current := read segment member
    have closes : ∀ closed ∈ closing isLast, ∀ c ∈ closed, isAllowed c := by
      intro closed isClosing
      unfold closing at isClosing
      split at isClosing
      · obtain rfl := List.mem_singleton.mp isClosing
        simp
      · cases isClosing
    have result := reader.stepResult isFile isLast segment
    generalize reader.step isFile isLast segment = next at result ⊢
    cases result with
    | stay =>
        intro other inNext
        rcases List.mem_append.mp inNext with old | new
        · exact before other old
        · exact closes other new
    | up =>
        intro other inNext
        rcases List.mem_append.mp inNext with old | new
        · exact before other (reader.ascend_prefix.subset old)
        · exact closes other new
    | drive =>
        intro other isDrive
        obtain rfl := List.mem_singleton.mp isDrive
        intro c inDrive
        rcases List.mem_append.mp inDrive with inSegment | isColon
        · exact current c (List.mem_of_mem_take inSegment)
        · obtain rfl := List.mem_singleton.mp isColon
          exact colon
    | keep =>
        intro other inNext
        rcases List.mem_append.mp inNext with old | new
        · exact before other old
        · obtain rfl := List.mem_singleton.mp new
          exact current
  · exact before

end PathReader

/-- The characters of a segment as it is written. -/
def isSegmentChar (type : SchemeType) (c : Char) : Bool :=
  !isPathEncoded c && c != '/' && !(type.isSpecial && c == '\\')

theorem isSegmentChar_iff {type : SchemeType} {c : Char} : isSegmentChar type c = true ↔
    isPathEncoded c = false ∧ c ≠ '/' ∧ (type.isSpecial = true → c ≠ '\\') := by
  cases special : type.isSpecial <;> simp [isSegmentChar, special, and_assoc]

/-- What the segments of every path that was read have in common. -/
structure IsPath (type : SchemeType) (segments : List (List Char)) : Prop where
  nonempty : segments ≠ []
  chars : ∀ segment ∈ segments, ∀ c ∈ segment, isSegmentChar type c = true
  trimmed : type = .file → trimSegments segments = segments
  noDots : ∀ segment ∈ segments, isDot segment = false

theorem isSegmentChar_encoded {type : SchemeType} {text segment : List Char}
    (member : segment ∈ (splitPath type text).map (percentEncode isPathEncoded)) :
    ∀ c ∈ segment, isSegmentChar type c = true := by
  obtain ⟨part, inSplit, rfl⟩ := List.mem_map.mp member
  have escapes : ∀ c ∈ escapeChars, isPathEncoded c = false ∧ c ≠ '/' ∧ c ≠ '\\' :=
    Text.forall_mem_of_all (by decide)
  intro c inSegment
  rw [isSegmentChar_iff]
  refine ⟨kept_of_mem_percentEncode (fun c isEscape => (escapes c isEscape).1) inSegment, ?_⟩
  rcases of_mem_percentEncode inSegment with ⟨inPart, -⟩ | isEscape
  · constructor
    · rintro rfl
      exact Text.separator_not_mem_of_mem_splitOn inSplit inPart
    · rintro special rfl
      -- Under a special scheme every backslash was replaced before the text was cut.
      have inMapped := Text.mem_of_mem_splitOn inSplit inPart
      obtain ⟨d, -, mapped⟩ := List.mem_map.mp inMapped
      split at mapped
      · cases mapped
      · next kept =>
          rw [mapped] at kept
          simp [special] at kept
  · exact ⟨(escapes c isEscape).2.1, fun _ => (escapes c isEscape).2.2⟩

theorem trimSegments_subset {segments : List (List Char)} :
    ∀ segment ∈ trimSegments segments, segment = [] ∨ segment ∈ segments := by
  intro segment member
  unfold trimSegments at member
  split at member
  · exact .inl (List.mem_singleton.mp member)
  · exact .inr ((List.dropWhile_suffix _).subset member)

theorem trimSegments_cons {first : List Char} {rest : List (List Char)} (nonempty : first ≠ []) :
    trimSegments (first :: rest) = first :: rest := by
  have isNonempty : first.isEmpty = false := by simpa using nonempty
  simp [trimSegments, isNonempty]

theorem trimSegments_nil_cons (segments : List (List Char)) :
    trimSegments ([] :: segments) = trimSegments segments := by
  simp [trimSegments]

/-- A trimmed path is `[[]]` or begins with a segment that is not empty. -/
theorem trimSegments_cases (segments : List (List Char)) : trimSegments segments = [[]] ∨
    ∃ first rest, first ≠ [] ∧ trimSegments segments = first :: rest := by
  induction segments with
  | nil => exact .inl rfl
  | cons first rest induction =>
      by_cases empty : first = []
      · rw [empty, trimSegments_nil_cons]
        exact induction
      · exact .inr ⟨first, rest, empty, trimSegments_cons empty⟩

theorem trimSegments_idem (segments : List (List Char)) :
    trimSegments (trimSegments segments) = trimSegments segments := by
  rcases trimSegments_cases segments with single | ⟨first, rest, nonempty, isCons⟩
  · rw [single]
    rfl
  · rw [isCons, trimSegments_cons nonempty]

/-- What a path reader has read, before the empty segments at the beginning are left out. -/
def readSegments (type : SchemeType) (text : List Char) : PathReader :=
  PathReader.readAll (type == .file) ⟨[], false⟩
    ((splitPath type text).map (percentEncode isPathEncoded))

theorem segments_readPath (type : SchemeType) (text : List Char) :
    (readPath type text).segments =
      if type = .file then trimSegments (readSegments type text).segments
      else (readSegments type text).segments := by
  cases type <;> rfl

theorem isPath_readPath (type : SchemeType) (text : List Char) :
    IsPath type (readPath type text).segments := by
  have split : (splitPath type text).map (percentEncode isPathEncoded) ≠ [] := by
    simp [splitPath, List.splitOn_ne_nil]
  have nonempty : (readSegments type text).segments ≠ [] := PathReader.readAll_ne_nil split
  have chars : ∀ segment ∈ (readSegments type text).segments, ∀ c ∈ segment,
      isSegmentChar type c = true :=
    PathReader.forall_mem_readAll (by cases type <;> decide)
      (fun _ member => isSegmentChar_encoded member) (by simp)
  have noDots : (readSegments type text).NoDots :=
    PathReader.NoDots.readAll (by simp [PathReader.NoDots])
  rw [segments_readPath]
  split
  · refine ⟨?_, ?_, fun _ => trimSegments_idem _, ?_⟩
    · rcases trimSegments_cases (readSegments type text).segments with single | ⟨_, _, -, isCons⟩
      · simp [single]
      · simp [isCons]
    · intro segment member
      rcases trimSegments_subset segment member with rfl | inRead
      · simp
      · exact chars segment inRead
    · intro segment member
      rcases trimSegments_subset segment member with rfl | inRead
      · rfl
      · exact noDots segment inRead
  · next notFile => exact ⟨nonempty, chars, fun isFile => absurd isFile notFile, noDots⟩

/-- Segments with a slash between any two. -/
def joined (segments : List (List Char)) : List Char :=
  ['/'].intercalate segments

theorem joined_cons (first : List Char) {rest : List (List Char)} (nonempty : rest ≠ []) :
    joined (first :: rest) = first ++ '/' :: joined rest := by
  obtain ⟨second, others, rfl⟩ := List.exists_cons_of_ne_nil nonempty
  rw [joined, List.intercalate_cons_cons, List.append_assoc]
  rfl

theorem flatMap_slash {segments : List (List Char)} (nonempty : segments ≠ []) :
    segments.flatMap ('/' :: ·) = '/' :: joined segments := by
  induction segments with
  | nil => exact absurd rfl nonempty
  | cons first rest induction =>
      cases rest with
      | nil => simp [joined]
      | cons second others =>
          rw [List.flatMap_cons, induction (by simp), joined_cons first (by simp)]
          rfl

/-- Segments that are joined are found again. -/
theorem readSegments_joined {type : SchemeType} {segments : List (List Char)}
    (nonempty : segments ≠ [])
    (chars : ∀ segment ∈ segments, ∀ c ∈ segment, isSegmentChar type c = true) :
    readSegments type (joined segments) =
      PathReader.readAll (type == .file) ⟨[], false⟩ segments := by
  have slashes : (joined segments).map (fun c => if type.isSpecial && c == '\\' then '/' else c) =
      joined segments := by
    rw [List.map_congr_left, List.map_id']
    intro c member
    rcases Text.mem_intercalate member with rfl | ⟨segment, isSegment, inSegment⟩
    · simp
    · have noBackslash := (isSegmentChar_iff.mp (chars segment isSegment c inSegment)).2.2
      apply if_neg
      simpa using noBackslash
  have apart : (joined segments).splitOn '/' = segments := by
    apply List.splitOn_intercalate '/' _ nonempty
    intro segment member inSegment
    exact (isSegmentChar_iff.mp (chars segment member _ inSegment)).2.1 rfl
  have kept : segments.map (percentEncode isPathEncoded) = segments := by
    rw [List.map_congr_left, List.map_id']
    intro segment member
    exact percentEncode_eq_self fun c inSegment =>
      (isSegmentChar_iff.mp (chars segment member c inSegment)).1
  rw [readSegments, splitPath, slashes, apart, kept]

section ReadAgain

variable {type : SchemeType} {segments : List (List Char)} (isPath : IsPath type segments)
include isPath

/-- Outside file addresses a path is read as it was written. -/
theorem readPath_joined (notFile : type ≠ .file) : (readPath type (joined segments)).segments =
    segments := by
  rw [segments_readPath, if_neg notFile, readSegments_joined isPath.nonempty isPath.chars,
    PathReader.readAll_keep isPath.noDots (by simp [notFile])]
  rfl

/-- A point before a path that begins with two slashes is not kept. -/
theorem readPath_point (notFile : type ≠ .file) :
    (readPath type ('.' :: '/' :: joined segments)).segments = segments := by
  have chars : ∀ segment ∈ ['.'] :: segments, ∀ c ∈ segment, isSegmentChar type c = true := by
    intro segment member
    rcases List.mem_cons.mp member with rfl | inSegments
    · apply Text.forall_mem_of_all
      cases type <;> decide
    · exact isPath.chars segment inSegments
  have notLast : segments.isEmpty = false := by simpa using isPath.nonempty
  have stays : PathReader.step false false ⟨[], false⟩ ['.'] = ⟨[], false⟩ := rfl
  rw [segments_readPath, if_neg notFile]
  have written := readSegments_joined (by simp) chars
  rw [joined_cons _ isPath.nonempty] at written
  rw [show '.' :: '/' :: joined segments = ['.'] ++ '/' :: joined segments from rfl, written,
    PathReader.readAll_cons, notLast, show (type == .file) = false by simpa using notFile, stays,
    PathReader.readAll_keep isPath.noDots (by simp)]
  rfl

end ReadAgain

section ReadFile

variable {segments : List (List Char)} (isPath : IsPath .file segments)
include isPath

/-- Behind an empty host, a path is read as it was written. -/
theorem readPath_slash : (readPath .file ('/' :: joined segments)).segments = segments := by
  have chars : ∀ segment ∈ [] :: segments, ∀ c ∈ segment, isSegmentChar .file c = true := by
    simpa using isPath.chars
  have notLast : segments.isEmpty = false := by simpa using isPath.nonempty
  have written := readSegments_joined (by simp) chars
  have first : PathReader.step true false ⟨[], false⟩ [] = ⟨[[]], false⟩ := rfl
  rw [joined_cons _ isPath.nonempty, PathReader.readAll_cons, notLast] at written
  rw [segments_readPath, if_pos rfl, ← List.nil_append ('/' :: joined segments), written]
  change trimSegments (PathReader.readAll true (PathReader.step true false ⟨[], false⟩ [])
    segments).segments = segments
  rw [first, PathReader.readAll_keep isPath.noDots (by simp)]
  change trimSegments ([] :: segments) = segments
  rw [trimSegments_nil_cons, isPath.trimmed rfl]

/-- Behind a host, a path is read as it was written unless its first segment is a drive letter. -/
theorem readPath_joined_iff : ((readPath .file (joined segments)).segments = segments ∧
      (readPath .file (joined segments)).hostDropped = false) ↔
      ∀ segment ∈ segments.head?, isDriveLetter segment = false := by
  have dropped : (readPath .file (joined segments)).hostDropped =
      (readSegments .file (joined segments)).hostDropped := rfl
  rw [segments_readPath, if_pos rfl, dropped,
    readSegments_joined isPath.nonempty isPath.chars]
  change trimSegments (PathReader.readAll true ⟨[], false⟩ segments).segments = segments ∧
    (PathReader.readAll true ⟨[], false⟩ segments).hostDropped = false ↔ _
  constructor
  · rintro ⟨-, notDropped⟩
    obtain ⟨first, rest, rfl⟩ := List.exists_cons_of_ne_nil isPath.nonempty
    rw [List.head?_cons]
    rintro segment ⟨⟩
    rw [Bool.eq_false_iff]
    intro isDrive
    rw [PathReader.readAll_cons, PathReader.hostDropped_readAll
      (PathReader.hostDropped_step_drive isDrive)] at notDropped
    cases notDropped
  · intro noDrive
    rw [PathReader.readAll_keep isPath.noDots fun _ _ => noDrive]
    exact ⟨isPath.trimmed rfl, rfl⟩

end ReadFile

end TypedEnv.Url
