import TypedEnv.Proofs.Config.Building
import TypedEnv.Proofs.Config.Sections
import TypedEnv.Proofs.Declaration.Line

/-!
# Declarations that can stand together

A configuration can be built exactly when each declaration has a name that can
be used and any two of them are compatible.  Neither condition looks at the
order of the declarations.  `Builder.IsSettled` carries both through the
declarations that were placed, and `exists_add_iff` says what the next one
needs.
-/

namespace TypedEnv.Config

open Node

/-- The segments of a declared name, without the front text. -/
def segmentsIn (front : Option String) (declaration : Declaration) : List String :=
  segmentsOf (stripFront front declaration.name)

/-- The path of fields that a declaration asks for. -/
def fieldsIn (front : Option String) (declaration : Declaration) : List String :=
  (segmentsIn front declaration).map Name.field

/-- Every segment of a declared name has characters and a field name. -/
def IsNameable (front : Option String) (declaration : Declaration) : Prop :=
  ∀ segment ∈ segmentsIn front declaration,
    segment ≠ "" ∧ ∃ name, Name.fieldName segment = .ok name

/-- The section paths of a variable are the proper beginnings of its path, the empty one
excepted. -/
def IsSectionOf (path fields : List String) : Prop :=
  path ≠ [] ∧ IsAbove path fields

/-- Two paths of fields that can stand in one configuration. -/
structure Compatible (first second : List String) : Prop where
  joined : String.intercalate "_" first ≠ String.intercalate "_" second
  not_below : ¬ first <+: second
  not_above : ¬ second <+: first
  types : ∀ one other, (IsSectionOf one first ∨ IsSectionOf one second) →
    (IsSectionOf other first ∨ IsSectionOf other second) →
      Name.typeName one = Name.typeName other → one = other

/-- Declarations with names that can be used, any two of them compatible. -/
structure Admissible (front : Option String) (declarations : List Declaration) : Prop where
  nameable : ∀ declaration ∈ declarations, IsNameable front declaration
  compatible : declarations.Pairwise fun first second =>
    Compatible (fieldsIn front first) (fieldsIn front second)

theorem Compatible.symm {first second : List String} (compatible : Compatible first second) :
    Compatible second first where
  joined := compatible.joined.symm
  not_below := compatible.not_above
  not_above := compatible.not_below
  types := fun one other oneSection otherSection =>
    compatible.types one other oneSection.symm otherSection.symm

instance : Std.Symm Compatible :=
  ⟨fun _ _ => Compatible.symm⟩

theorem isSectionOf_iff {path fields : List String} :
    IsSectionOf path fields ↔ IsAbove [] path ∧ IsAbove path fields := by
  refine and_congr_left fun _ => ⟨isAbove_append, fun isAbove isNil => ?_⟩
  exact isAbove.2 isNil.symm

/-- Sections of one path are told apart by the lengths of their types. -/
theorem IsSectionOf.eq_of_typeName {fields one other : List String}
    (accepted : ∀ name ∈ fields, Name.IsField name) (isOne : IsSectionOf one fields)
    (isOther : IsSectionOf other fields) (same : Name.typeName one = Name.typeName other) :
    one = other := by
  by_contra different
  rcases List.prefix_or_prefix_of_prefix isOne.2.1 isOther.2.1 with before | behind
  · refine Name.typeName_ne_of_inside (fun name member => ?_) before different same
    exact accepted name (isOther.2.1.subset member)
  · refine Name.typeName_ne_of_inside (fun name member => ?_) behind (Ne.symm different) same.symm
    exact accepted name (isOne.2.1.subset member)

theorem Compatible.of_types {first second : List String}
    (firstAccepted : ∀ name ∈ first, Name.IsField name)
    (secondAccepted : ∀ name ∈ second, Name.IsField name)
    (joined : String.intercalate "_" first ≠ String.intercalate "_" second)
    (not_below : ¬ first <+: second) (not_above : ¬ second <+: first)
    (types : ∀ one other, IsSectionOf one first → IsSectionOf other second →
      Name.typeName one = Name.typeName other → one = other) : Compatible first second := by
  refine ⟨joined, not_below, not_above, ?_⟩
  intro one other oneSection otherSection same
  rcases oneSection with oneFirst | oneSecond
  · rcases otherSection with otherFirst | otherSecond
    · exact oneFirst.eq_of_typeName firstAccepted otherFirst same
    · exact types one other oneFirst otherSecond same
  · rcases otherSection with otherFirst | otherSecond
    · exact (types other one otherFirst oneSecond same.symm).symm
    · exact oneSecond.eq_of_typeName secondAccepted otherSecond same

section Order

variable {front : Option String} {first second declarations : List Declaration}
  {declaration : Declaration}

theorem Admissible.sublist (admissible : Admissible front declarations)
    (sublist : first.Sublist declarations) : Admissible front first where
  nameable := fun declaration member =>
    admissible.nameable declaration (sublist.subset member)
  compatible := admissible.compatible.sublist sublist

/-- The order of the declarations does not matter. -/
theorem Admissible.perm (permutation : first.Perm second) :
    Admissible front first ↔ Admissible front second := by
  have oneWay : ∀ one other : List Declaration, one.Perm other → Admissible front one →
      Admissible front other := by
    intro one other permuted admissible
    refine ⟨fun declaration member => ?_, ?_⟩
    · exact admissible.nameable declaration (permuted.mem_iff.mpr member)
    · exact (permuted.pairwise_iff Compatible.symm).mp admissible.compatible
  exact ⟨oneWay first second permutation, oneWay second first permutation.symm⟩

theorem admissible_append_singleton :
    Admissible front (declarations ++ [declaration]) ↔
      Admissible front declarations ∧ IsNameable front declaration ∧
        ∀ earlier ∈ declarations,
          Compatible (fieldsIn front earlier) (fieldsIn front declaration) := by
  constructor
  · intro admissible
    have apart := (List.pairwise_append.mp admissible.compatible).2.2
    refine ⟨admissible.sublist (List.sublist_append_left _ _), ?_, ?_⟩
    · exact admissible.nameable declaration (by simp)
    · intro earlier member
      exact apart earlier member declaration (List.mem_singleton_self _)
  · intro ⟨admissible, nameable, compatible⟩
    refine ⟨?_, List.pairwise_append.mpr ⟨admissible.compatible, List.pairwise_singleton _ _, ?_⟩⟩
    · intro other member
      rcases List.mem_append.mp member with earlier | isLast
      · exact admissible.nameable other earlier
      · exact List.mem_singleton.mp isLast ▸ nameable
    · intro earlier member other isLast
      exact List.mem_singleton.mp isLast ▸ compatible earlier member

end Order

section Claims

variable {front : Option String} {declaration : Declaration} {claim : Claim}

theorem mem_of_mem_cutSegments {text part : List Char} {c : Char}
    (member : part ∈ cutSegments text) (inPart : c ∈ part) : c ∈ text := by
  fun_induction cutSegments text generalizing part with
  | case1 =>
      obtain rfl := List.mem_singleton.mp member
      cases inPart
  | case2 rest induction =>
      rcases List.mem_cons.mp member with rfl | later
      · cases inPart
      · exact List.mem_cons_of_mem _ (List.mem_cons_of_mem _ (induction later inPart))
  | case3 d rest noMark isNil induction =>
      exact absurd isNil (cutSegments_ne_nil rest)
  | case4 d rest noMark first others parts induction =>
      rw [parts] at induction
      rcases List.mem_cons.mp member with rfl | later
      · rcases List.mem_cons.mp inPart with rfl | inFirst
        · exact List.mem_cons_self
        · exact List.mem_cons_of_mem _ (induction List.mem_cons_self inFirst)
      · exact List.mem_cons_of_mem _ (induction (List.mem_cons_of_mem _ later) inPart)

/-- Segments have characters of the name only. -/
theorem mem_name_of_mem_segmentsIn {segment : String} {c : Char}
    (member : segment ∈ segmentsIn front declaration) (inSegment : c ∈ segment.toList) :
    c ∈ declaration.name.toList := by
  obtain ⟨part, isPart, rfl⟩ := List.mem_map.mp member
  rw [String.toList_ofList] at inSegment
  have inStripped := mem_of_mem_cutSegments isPart inSegment
  unfold stripFront at inStripped
  split at inStripped
  · exact inStripped
  · split at inStripped
    · rw [String.toList_ofList] at inStripped
      exact List.mem_of_mem_drop inStripped
    · exact inStripped

theorem Claim.Of.fields_eq (taken : claim.Of front declaration) :
    claim.fields = fieldsIn front declaration := by
  rw [fieldsIn, segmentsIn, ← taken.segments]
  exact (Name.forall₂_fieldName_iff.mp taken.fields).1

/-- There is a claim exactly for declarations with names that can be used. -/
theorem Claim.exists_of_iff : (∃ claim : Claim, claim.Of front declaration) ↔
    IsNameable front declaration := by
  constructor
  · intro ⟨claim, taken⟩ segment member
    change segment ∈ segmentsOf (stripFront front declaration.name) at member
    rw [← taken.segments] at member
    have nonempty := taken.segments_nonempty segment member
    exact ⟨by simpa using nonempty, (Name.forall₂_fieldName_iff.mp taken.fields).2 segment member⟩
  · intro nameable
    refine ⟨⟨declaration.name, declaration.value, declaration.line, segmentsIn front declaration,
      fieldsIn front declaration⟩, rfl, rfl, rfl, rfl, ?_, ?_⟩
    · intro segment member
      simpa using (nameable segment member).1
    · exact Name.forall₂_fieldName_iff.mpr ⟨rfl, fun segment member => (nameable segment member).2⟩

/-- Names of name characters are ASCII, and so are the segments of a claim for them. -/
theorem Claim.Of.isSpelled (taken : claim.Of front declaration)
    (named : ∀ c ∈ declaration.name.toList, Declaration.isNameChar c = true) :
    claim.IsSpelled := by
  have ascii : ∀ segment ∈ claim.segments, ∀ c ∈ segment.toList, c.toNat < 128 := by
    intro segment member c inSegment
    rw [taken.segments] at member
    exact Declaration.ascii_of_isNameChar
      (named c (mem_name_of_mem_segmentsIn member inSegment))
  exact ⟨ascii, (Name.forall₂_fieldName_iff.mp taken.fields).1,
    Name.isField_of_forall₂ ascii taken.fields⟩

theorem Claim.paths_eq {declarations : List Declaration} {claims : List Claim}
    (related : List.Forall₂ (fun declaration claim => claim.Of front declaration)
      declarations claims) :
    (claims.map Claim.leaf).map Leaf.path = declarations.map (fieldsIn front) := by
  induction related with
  | nil => rfl
  | cons taken others induction =>
      rw [List.map_cons, List.map_cons, List.map_cons, induction, ← taken.fields_eq]
      rfl

theorem IsNameable.accepted (nameable : IsNameable front declaration)
    (named : ∀ c ∈ declaration.name.toList, Declaration.isNameChar c = true) :
    ∀ name ∈ fieldsIn front declaration, Name.IsField name := by
  obtain ⟨claim, taken⟩ := Claim.exists_of_iff.mpr nameable
  rw [← taken.fields_eq]
  exact (taken.isSpelled named).accepted

end Claims

namespace Builder

variable {front : Option String} {placed declarations : List Declaration}
  {builder builderAfter : Builder} {declaration : Declaration} {claim : Claim}

/-- The paths of the variables are those that the declarations ask for. -/
theorem Represents.paths (represents : Represents front placed builder) :
    ((leavesOf builder.roots).map Leaf.path).Perm (placed.map (fieldsIn front)) := by
  obtain ⟨claims, related, leaves⟩ := represents.leaves
  exact Claim.paths_eq related ▸ leaves.map Leaf.path

theorem Represents.exists_leaf (represents : Represents front placed builder)
    (member : declaration ∈ placed) :
    ∃ leaf ∈ leavesOf builder.roots, leaf.path = fieldsIn front declaration :=
  List.mem_map.mp (represents.paths.mem_iff.mpr (List.mem_map_of_mem member))

theorem Represents.exists_declaration (represents : Represents front placed builder) {leaf : Leaf}
    (member : leaf ∈ leavesOf builder.roots) :
    ∃ earlier ∈ placed, fieldsIn front earlier = leaf.path :=
  List.mem_map.mp (represents.paths.mem_iff.mp (List.mem_map_of_mem member))

/-- The constants are made from the paths. -/
theorem Represents.mem_constants_iff (represents : Represents front placed builder)
    {constant : String} :
    constant ∈ builder.constants.map Prod.fst ↔
      ∃ earlier ∈ placed, Name.constName (fieldsIn front earlier) = constant := by
  have fromPath : (leavesOf builder.roots).map Leaf.constName =
      ((leavesOf builder.roots).map Leaf.path).map Name.constName := by
    obtain ⟨claims, -, leaves⟩ := represents.leaves
    rw [List.map_map]
    refine List.map_congr_left fun leaf member => ?_
    obtain ⟨claim, -, rfl⟩ := List.mem_map.mp (leaves.mem_iff.mp member)
    rfl
  have constants := represents.constants.trans
    (fromPath ▸ represents.paths.map Name.constName)
  rw [constants.mem_iff, List.map_map, List.mem_map]
  rfl

/-- What holds of a builder whose forest was made from admissible declarations. -/
structure IsSettled (front : Option String) (placed : List Declaration) (builder : Builder) :
    Prop extends Represents front placed builder where
  areNamed : AreNamed [] builder.roots
  admissible : Admissible front placed

theorem IsSettled.empty (front : Option String) : IsSettled front [] Builder.empty where
  toRepresents := Represents.empty front
  areNamed := trivial
  admissible := ⟨by simp, .nil⟩

/-- The types are those of the sections of the declarations. -/
theorem IsSettled.mem_types_iff (settled : IsSettled front placed builder) {typeName : String} :
    typeName ∈ builder.types.map Prod.fst ↔ ∃ earlier ∈ placed, ∃ path,
      IsSectionOf path (fieldsIn front earlier) ∧ Name.typeName path = typeName := by
  rw [settled.types.mem_iff, mem_typeNamesOf_iff settled.wellPlaced settled.areNamed]
  constructor
  · intro ⟨found, isLeaf, path, isAbove, inside, same⟩
    obtain ⟨earlier, isEarlier, samePath⟩ := settled.exists_declaration isLeaf
    refine ⟨earlier, isEarlier, path, isSectionOf_iff.mpr ⟨isAbove, ?_⟩, same⟩
    exact samePath ▸ inside
  · intro ⟨earlier, isEarlier, path, isSection, same⟩
    obtain ⟨found, isLeaf, samePath⟩ := settled.exists_leaf isEarlier
    obtain ⟨isAbove, inside⟩ := isSectionOf_iff.mp isSection
    exact ⟨found, isLeaf, path, isAbove, samePath ▸ inside, same⟩

/-- No two sections of declarations that were placed share a type. -/
theorem IsSettled.eq_of_typeName (settled : IsSettled front placed builder)
    (named : ∀ earlier ∈ placed, ∀ c ∈ earlier.name.toList, Declaration.isNameChar c = true)
    {first second : Declaration} (isFirst : first ∈ placed) (isSecond : second ∈ placed)
    {one other : List String} (oneSection : IsSectionOf one (fieldsIn front first))
    (otherSection : IsSectionOf other (fieldsIn front second))
    (same : Name.typeName one = Name.typeName other) : one = other := by
  have accepted := (settled.admissible.nameable first isFirst).accepted (named first isFirst)
  by_cases samePath : fieldsIn front first = fieldsIn front second
  · exact oneSection.eq_of_typeName accepted (samePath ▸ otherSection) same
  · have pairwise := List.pairwise_map.mpr settled.admissible.compatible
    have compatible := pairwise.forall (List.mem_map_of_mem isFirst)
      (List.mem_map_of_mem isSecond) samePath
    exact compatible.types one other (.inl oneSection) (.inr otherSection) same

/-- A claim that can be added is compatible with everything that was placed. -/
theorem IsSettled.compatible (settled : IsSettled front placed builder)
    (named : ∀ earlier ∈ placed, ∀ c ∈ earlier.name.toList, Declaration.isNameChar c = true)
    (spelled : claim.IsSpelled)
    (unowned : claim.constName ∉ builder.constants.map Prod.fst)
    (room : Room claim [] builder.types builder.roots) {earlier : Declaration}
    (member : earlier ∈ placed) : Compatible (fieldsIn front earlier) claim.fields := by
  have accepted := (settled.admissible.nameable earlier member).accepted (named earlier member)
  obtain ⟨found, isLeaf, samePath⟩ := settled.exists_leaf member
  have apart := room.apart found isLeaf
  rw [samePath] at apart
  refine .of_types accepted spelled.accepted ?_ apart.1 apart.2 ?_
  · intro sameJoined
    refine unowned (settled.mem_constants_iff.mpr ⟨earlier, member, ?_⟩)
    exact (Name.constName_eq_iff accepted spelled.accepted).mpr sameJoined
  · intro one other oneSection otherSection same
    obtain ⟨isAbove, inside⟩ := isSectionOf_iff.mp otherSection
    by_cases isOpen : ∀ leaf ∈ leavesOf builder.roots, ¬ other <+: leaf.path
    · -- the claim would have to open a section whose type is taken
      refine absurd ?_ (room.unclaimed other isAbove inside isOpen)
      exact settled.mem_types_iff.mpr ⟨earlier, member, one, oneSection, same⟩
    · -- the section is there, so another declaration has it too
      push Not at isOpen
      obtain ⟨below, isBelow, otherInside⟩ := isOpen
      obtain ⟨third, isThird, thirdPath⟩ := settled.exists_declaration isBelow
      have notWhole : other ≠ below.path := by
        rintro rfl
        exact (room.apart below isBelow).1 inside.1
      have thirdSection : IsSectionOf other (fieldsIn front third) :=
        ⟨otherSection.1, thirdPath ▸ ⟨otherInside, notWhole⟩⟩
      exact settled.eq_of_typeName named member isThird oneSection thirdSection same

/-- There is room for a claim that is compatible with everything that was placed. -/
theorem IsSettled.room (settled : IsSettled front placed builder)
    (compatible : ∀ earlier ∈ placed, Compatible (fieldsIn front earlier) claim.fields) :
    Room claim [] builder.types builder.roots where
  apart := by
    intro found isLeaf
    obtain ⟨earlier, member, samePath⟩ := settled.exists_declaration isLeaf
    rw [← samePath]
    exact ⟨(compatible earlier member).not_below, (compatible earlier member).not_above⟩
  unclaimed := by
    intro path isAbove inside noneBelow isClaimed
    obtain ⟨earlier, member, other, otherSection, same⟩ := settled.mem_types_iff.mp isClaimed
    have isSection := isSectionOf_iff.mpr ⟨isAbove, inside⟩
    obtain rfl : other = path :=
      (compatible earlier member).types other path (.inl otherSection) (.inr isSection) same
    obtain ⟨found, isLeaf, samePath⟩ := settled.exists_leaf member
    exact noneBelow found isLeaf (samePath ▸ otherSection.2.1)

/-- A claim is added exactly when it is compatible with everything that was placed before. -/
theorem IsSettled.exists_addClaim_iff (settled : IsSettled front placed builder)
    (named : ∀ earlier ∈ placed, ∀ c ∈ earlier.name.toList, Declaration.isNameChar c = true)
    (taken : claim.Of front declaration) (spelled : claim.IsSpelled) :
    (∃ builderAfter, builder.addClaim claim = .ok builderAfter) ↔
      ∀ earlier ∈ placed, Compatible (fieldsIn front earlier) claim.fields := by
  obtain ⟨nonempty, fields⟩ := taken.zip
  have canPlace : (∃ result, place claim builder.types 0 builder.roots
      (claim.segments.zip claim.fields) = .ok result) ↔
        Room claim [] builder.types builder.roots :=
    exists_place_iff spelled nonempty fields.symm rfl settled.wellPlaced
  constructor
  · intro ⟨builderAfter, added⟩ earlier member
    obtain ⟨unowned, roots, types, inserted, -⟩ := addClaim_eq_ok_iff.mp added
    exact settled.compatible named spelled unowned (canPlace.mp ⟨_, inserted⟩) member
  · intro compatible
    have unowned : claim.constName ∉ builder.constants.map Prod.fst := by
      intro owned
      obtain ⟨earlier, member, sameConstant⟩ := settled.mem_constants_iff.mp owned
      have accepted :=
        (settled.admissible.nameable earlier member).accepted (named earlier member)
      exact (compatible earlier member).joined
        ((Name.constName_eq_iff accepted spelled.accepted).mp sameConstant)
    obtain ⟨⟨roots, types⟩, inserted⟩ := canPlace.mpr (settled.room compatible)
    exact ⟨_, addClaim_eq_ok_iff.mpr ⟨unowned, roots, types, inserted, rfl⟩⟩

/-- The next declaration is added exactly when its name can be used and it is compatible with
those before it. -/
theorem IsSettled.exists_add_iff (settled : IsSettled front placed builder)
    (named : ∀ earlier ∈ placed ++ [declaration], ∀ c ∈ earlier.name.toList,
      Declaration.isNameChar c = true) :
    (∃ builderAfter, builder.add front declaration = .ok builderAfter) ↔
      Admissible front (placed ++ [declaration]) := by
  have placedNamed := fun earlier member => named earlier (List.mem_append_left _ member)
  have lastNamed := named declaration (by simp)
  rw [admissible_append_singleton]
  constructor
  · intro ⟨builderAfter, added⟩
    obtain ⟨claim, taken, addedClaim⟩ := add_eq_ok_iff.mp added
    have compatible := (settled.exists_addClaim_iff placedNamed taken
      (taken.isSpelled lastNamed)).mp ⟨_, addedClaim⟩
    rw [taken.fields_eq] at compatible
    exact ⟨settled.admissible, Claim.exists_of_iff.mp ⟨claim, taken⟩, compatible⟩
  · intro ⟨_, nameable, compatible⟩
    obtain ⟨claim, taken⟩ := Claim.exists_of_iff.mpr nameable
    rw [← taken.fields_eq] at compatible
    obtain ⟨builderAfter, added⟩ := (settled.exists_addClaim_iff placedNamed taken
      (taken.isSpelled lastNamed)).mpr compatible
    exact ⟨builderAfter, add_eq_ok_iff.mpr ⟨claim, taken, added⟩⟩

theorem IsSettled.add (settled : IsSettled front placed builder)
    (named : ∀ earlier ∈ placed ++ [declaration], ∀ c ∈ earlier.name.toList,
      Declaration.isNameChar c = true)
    (added : builder.add front declaration = .ok builderAfter) :
    IsSettled front (placed ++ [declaration]) builderAfter := by
  obtain ⟨claim, taken, addedClaim⟩ := add_eq_ok_iff.mp added
  obtain ⟨unowned, roots, types, inserted, rfl⟩ := addClaim_eq_ok_iff.mp addedClaim
  obtain ⟨nonempty, fields⟩ := taken.zip
  have placement := Placement.of_place nonempty settled.wellPlaced inserted
  have spelled := taken.isSpelled (named declaration (by simp))
  exact ⟨settled.toRepresents.add added,
    placement.areNamed spelled fields.symm rfl settled.areNamed,
    (settled.exists_add_iff named).mp ⟨_, added⟩⟩

theorem isSettled_of_foldlM
    (named : ∀ declaration ∈ declarations, ∀ c ∈ declaration.name.toList,
      Declaration.isNameChar c = true)
    (built : declarations.foldlM (Builder.add front) .empty = .ok builder) :
    IsSettled front declarations builder := by
  refine foldlM_induction built (.empty front) ?_
  rintro before declaration after state next rfl settled added
  rw [List.append_cons] at named
  exact settled.add (fun earlier member => named earlier (List.mem_append_left _ member)) added

theorem line_of_add {diagnostic : Diagnostic}
    (failed : builder.add front declaration = .error diagnostic) :
    diagnostic.line = some declaration.line := by
  rw [add] at failed
  generalize (Claim.ofDeclaration front declaration >>= _) = placing at failed
  cases placing with
  | ok result => cases failed
  | error cause =>
      cases failed
      rfl

/-- What fails is the first declaration that is not admissible beside those before it. -/
theorem IsSettled.foldlM_error (settled : IsSettled front placed builder)
    (named : ∀ earlier ∈ placed ++ declarations, ∀ c ∈ earlier.name.toList,
      Declaration.isNameChar c = true) {diagnostic : Diagnostic}
    (failed : declarations.foldlM (Builder.add front) builder = .error diagnostic) :
    ∃ before declaration after, declarations = before ++ declaration :: after ∧
      Admissible front (placed ++ before) ∧
      ¬ Admissible front (placed ++ before ++ [declaration]) ∧
      diagnostic.line = some declaration.line := by
  induction declarations generalizing placed builder with
  | nil => cases failed
  | cons declaration rest induction =>
      rw [List.append_cons] at named
      have firstNamed := fun earlier member => named earlier (List.mem_append_left rest member)
      rw [List.foldlM_cons] at failed
      rcases bind_eq_error_iff.mp failed with notAdded | ⟨middle, added, laterFailed⟩
      · refine ⟨[], declaration, rest, rfl, ?_, ?_, line_of_add notAdded⟩
        · rw [List.append_nil]
          exact settled.admissible
        · rw [List.append_nil, ← settled.exists_add_iff firstNamed]
          simp [notAdded]
      · obtain ⟨before, blamed, after, parts, admissible, notAdmissible, line⟩ :=
          induction (settled.add firstNamed added) named laterFailed
        refine ⟨declaration :: before, blamed, after, by rw [parts]; rfl, ?_, ?_, line⟩
        · rwa [List.append_cons placed declaration before]
        · rwa [List.append_cons placed declaration before]

end Builder

namespace Forest

variable {declarations : List Declaration} {front : Option String}

/-- Some declarations have a configuration. -/
def IsBuildable (declarations : List Declaration) (front : Option String) : Prop :=
  ∃ forest, build declarations front = .ok forest

theorem isBuildable_iff_foldlM : IsBuildable declarations front ↔
    ∃ builder, declarations.foldlM (Builder.add (front.bind normalizePrefix?)) .empty =
      .ok builder :=
  exists_bind_pure_eq_ok_iff

/-- Whatever fails to build fails at the first declaration that cannot stand beside those before
it. -/
theorem exists_of_build_error {diagnostic : Diagnostic}
    (named : ∀ declaration ∈ declarations, ∀ c ∈ declaration.name.toList,
      Declaration.isNameChar c = true)
    (failed : build declarations front = .error diagnostic) :
    ∃ before declaration after, declarations = before ++ declaration :: after ∧
      Admissible (front.bind normalizePrefix?) before ∧
      ¬ Admissible (front.bind normalizePrefix?) (before ++ [declaration]) ∧
      diagnostic.line = some declaration.line := by
  have foldFailed : declarations.foldlM (Builder.add (front.bind normalizePrefix?)) .empty =
      .error diagnostic := bind_pure_eq_error_iff.mp failed
  have settled := Builder.IsSettled.empty (front.bind normalizePrefix?)
  exact settled.foldlM_error named foldFailed

theorem isBuildable_iff
    (named : ∀ declaration ∈ declarations, ∀ c ∈ declaration.name.toList,
      Declaration.isNameChar c = true) :
    IsBuildable declarations front ↔ Admissible (front.bind normalizePrefix?) declarations := by
  constructor
  · intro buildable
    obtain ⟨builder, built⟩ := isBuildable_iff_foldlM.mp buildable
    exact (Builder.isSettled_of_foldlM named built).admissible
  · intro admissible
    cases built : build declarations front with
    | ok forest => exact ⟨forest, built⟩
    | error diagnostic =>
        obtain ⟨before, declaration, after, rfl, -, notAdmissible, -⟩ :=
          exists_of_build_error named built
        refine absurd (admissible.sublist ?_) notAdmissible
        rw [List.append_cons before declaration after]
        exact List.sublist_append_left _ _

/-- Every section takes its type from its path, which has field names only. -/
theorem exists_path_of_mem_typeNames {forest : Forest} {typeName : String}
    (named : ∀ declaration ∈ declarations, ∀ c ∈ declaration.name.toList,
      Declaration.isNameChar c = true)
    (built : build declarations front = .ok forest) (isType : typeName ∈ forest.typeNames) :
    ∃ path, path ≠ [] ∧ (∀ name ∈ path, Name.IsField name) ∧ Name.typeName path = typeName := by
  obtain ⟨builder, folded, equality⟩ := bind_eq_ok_iff.mp built
  obtain rfl := pure_eq_ok_iff.mp equality
  have settled := Builder.isSettled_of_foldlM named folded
  have inTypes := settled.types.mem_iff.mpr isType
  obtain ⟨declaration, member, path, ⟨nonempty, inside⟩, same⟩ := settled.mem_types_iff.mp inTypes
  have accepted := (settled.admissible.nameable declaration member).accepted
    (named declaration member)
  exact ⟨path, nonempty, fun name isField => accepted name (inside.1.subset isField), same⟩

/-- What decides whether declarations have a configuration.  The front text is normalized before
it is removed from the names. -/
structure IsDecidedByNames (declarations : List Declaration) (front : Option String) : Prop where
  isBuildable_iff : IsBuildable declarations front ↔
    (∀ declaration ∈ declarations, IsNameable (front.bind normalizePrefix?) declaration) ∧
      declarations.Pairwise fun first second =>
        Compatible (fieldsIn (front.bind normalizePrefix?) first)
          (fieldsIn (front.bind normalizePrefix?) second)
  perm : ∀ others, others.Perm declarations →
    (IsBuildable others front ↔ IsBuildable declarations front)
  sublist : ∀ others, others.Sublist declarations →
    IsBuildable declarations front → IsBuildable others front
  /-- A failure names the line of the first declaration that cannot stand beside those before
  it. -/
  failure : ∀ diagnostic, build declarations front = .error diagnostic →
    ∃ before declaration after, declarations = before ++ declaration :: after ∧
      Admissible (front.bind normalizePrefix?) before ∧
      ¬ (IsNameable (front.bind normalizePrefix?) declaration ∧ ∀ earlier ∈ before,
        Compatible (fieldsIn (front.bind normalizePrefix?) earlier)
          (fieldsIn (front.bind normalizePrefix?) declaration)) ∧
      diagnostic.line = some declaration.line

/-- Declarations have a configuration exactly when their names can be used and any two of them
are compatible, in whatever order they come. -/
theorem isBuildable_iff_compatible
    (named : ∀ declaration ∈ declarations, ∀ c ∈ declaration.name.toList,
      Declaration.isNameChar c = true) : IsDecidedByNames declarations front := by
  refine ⟨?_, ?_, ?_, ?_⟩
  · rw [isBuildable_iff named]
    exact ⟨fun admissible => ⟨admissible.nameable, admissible.compatible⟩,
      fun conditions => ⟨conditions.1, conditions.2⟩⟩
  · intro others permutation
    have othersNamed := fun declaration member =>
      named declaration (permutation.mem_iff.mp member)
    rw [isBuildable_iff othersNamed, isBuildable_iff named]
    exact Admissible.perm permutation
  · intro others sublist buildable
    have othersNamed := fun declaration member => named declaration (sublist.subset member)
    exact (isBuildable_iff othersNamed).mpr
      (((isBuildable_iff named).mp buildable).sublist sublist)
  · intro diagnostic failed
    obtain ⟨before, declaration, after, parts, admissible, notAdmissible, line⟩ :=
      exists_of_build_error named failed
    refine ⟨before, declaration, after, parts, admissible, ?_, line⟩
    intro fits
    exact notAdmissible (admissible_append_singleton.mpr ⟨admissible, fits⟩)

/-- Two sections that would have the same type, with a variable between them. -/
def clashing : List Declaration :=
  [⟨"P_A_B__C", "1", .int 1, 1⟩, ⟨"P_E", "2", .int 2, 2⟩, ⟨"P_A__B__D", "3", .int 3, 4⟩]

theorem isBuildable_iff_compatible_clashing :
    (∀ declaration ∈ clashing, ∀ c ∈ declaration.name.toList,
        Declaration.isNameChar c = true) ∧
      build clashing (some "P") =
        .error (.atLine 4 (.conflict "P_A__B__D" (.sectionType "a.b" "a_b" "AB"))) ∧
      IsDecidedByNames clashing (some "P") :=
  have named : ∀ declaration ∈ clashing, ∀ c ∈ declaration.name.toList,
      Declaration.isNameChar c = true := by
    simp [clashing, Declaration.isNameChar]
  ⟨named, rfl, isBuildable_iff_compatible named⟩

end Forest

end TypedEnv.Config
