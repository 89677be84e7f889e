import TypedEnv.Proofs.Config.Compatibility

/-!
# The order of a configuration

A node is opened by the first declaration whose fields go through it, and
stands behind the neighbours that were opened before.  The variables of a
configuration are therefore in the order of the declarations as far as groups
allow: inside a group always, and altogether if the declarations of every
group stand together.
-/

namespace TypedEnv.Config

open Node

namespace Node

mutual

/-- At and below a node, neighbours stand in the order in which they were opened. -/
def InOrder (opened : List String → Nat) (above : List String) : Node → Prop
  | .leaf _ _ _ => True
  | .group _ field _ children => AreInOrder opened (above ++ [field]) children

def AreInOrder (opened : List String → Nat) (above : List String) : List Node → Prop
  | [] => True
  | node :: rest =>
      (∀ other ∈ rest, opened (above ++ [node.field]) < opened (above ++ [other.field])) ∧
        node.InOrder opened above ∧ AreInOrder opened above rest

end

theorem areInOrder_append {opened : List String → Nat} {above : List String}
    {first second : List Node} :
    AreInOrder opened above (first ++ second) ↔
      AreInOrder opened above first ∧ AreInOrder opened above second ∧
        ∀ node ∈ first, ∀ other ∈ second,
          opened (above ++ [node.field]) < opened (above ++ [other.field]) := by
  induction first with
  | nil => simp [AreInOrder]
  | cons node rest induction =>
      simp only [List.cons_append, AreInOrder, induction, List.forall_mem_append,
        List.forall_mem_cons]
      constructor
      · rintro ⟨⟨beforeRest, beforeSecond⟩, nodeOrdered, restOrdered, secondOrdered, apart⟩
        exact ⟨⟨beforeRest, nodeOrdered, restOrdered⟩, secondOrdered, beforeSecond, apart⟩
      · rintro ⟨⟨beforeRest, nodeOrdered, restOrdered⟩, secondOrdered, beforeSecond, apart⟩
        exact ⟨⟨beforeRest, beforeSecond⟩, nodeOrdered, restOrdered, secondOrdered, apart⟩

end Node

/-- Two paths part at nodes of which the first one was opened earlier. -/
def BranchesBefore (opened : List String → Nat) (one other : List String) : Prop :=
  ∃ above first second, above ++ [first] <+: one ∧ above ++ [second] <+: other ∧
    opened (above ++ [first]) < opened (above ++ [second])

/-- Neither of two paths begins with the other. -/
def Apart (one other : List String) : Prop :=
  ¬ one <+: other ∧ ¬ other <+: one

theorem BranchesBefore.apart {opened : List String → Nat} {one other : List String}
    (branches : BranchesBefore opened one other) : Apart one other := by
  obtain ⟨above, first, second, firstInside, secondInside, earlier⟩ := branches
  have different : first ≠ second := by
    rintro rfl
    exact absurd earlier (Nat.lt_irrefl _)
  exact ⟨fun inside => different (next_field_eq (firstInside.trans inside) secondInside),
    fun inside => different (next_field_eq firstInside (secondInside.trans inside))⟩

/-- Paths of one group part in it. -/
theorem BranchesBefore.lt_of_dropLast {opened : List String → Nat} {one other : List String}
    (branches : BranchesBefore opened one other) (sameGroup : one.dropLast = other.dropLast) :
    opened one < opened other := by
  obtain ⟨above, first, second, ⟨oneRest, rfl⟩, ⟨otherRest, rfl⟩, earlier⟩ := branches
  rw [← List.append_cons, ← List.append_cons, List.dropLast_append_cons,
    List.dropLast_append_cons, List.append_cancel_left_eq] at sameGroup
  cases oneRest with
  | nil =>
      cases otherRest with
      | nil => simpa using earlier
      | cons next others => simp at sameGroup
  | cons next others =>
      cases otherRest with
      | nil => simp at sameGroup
      | cons otherNext otherOthers =>
          have sameField : first = second := by simpa using (List.cons.inj sameGroup).1
          rw [sameField] at earlier
          exact absurd earlier (Nat.lt_irrefl _)

mutual

theorem pairwise_leaves {opened : List String → Nat} {above : List String} {node : Node}
    (placed : node.WellPlaced above) (ordered : node.InOrder opened above) :
    node.leaves.Pairwise fun one other => BranchesBefore opened one.path other.path := by
  cases node with
  | leaf name field entry => exact List.pairwise_singleton _ _
  | group name field typeName children => exact pairwise_leavesOf placed.2 ordered

/-- Variables come in the order in which their paths were parted. -/
theorem pairwise_leavesOf {opened : List String → Nat} {above : List String} {nodes : List Node}
    (placed : WellPlacedList above nodes) (ordered : AreInOrder opened above nodes) :
    (leavesOf nodes).Pairwise fun one other => BranchesBefore opened one.path other.path := by
  cases nodes with
  | nil => exact .nil
  | cons node rest =>
      obtain ⟨-, nodePlaced, restPlaced⟩ := placed
      obtain ⟨earlier, nodeOrdered, restOrdered⟩ := ordered
      refine List.pairwise_append.mpr ⟨pairwise_leaves nodePlaced nodeOrdered,
        pairwise_leavesOf restPlaced restOrdered, ?_⟩
      intro one inNode other inRest
      obtain ⟨neighbour, isNode, inside⟩ := exists_node_of_mem_leavesOf restPlaced inRest
      exact ⟨above, node.field, neighbour.field, prefix_of_mem_leaves nodePlaced inNode, inside,
        earlier neighbour isNode⟩

end

/-- The position of the first declaration whose fields go through a path. -/
def openedAt (front : Option String) (declarations : List Declaration) (path : List String) : Nat :=
  declarations.findIdx fun declaration => path.isPrefixOf (fieldsIn front declaration)

/-- The variable that a declaration asks for. -/
def leafIn (front : Option String) (declaration : Declaration) : Leaf :=
  ⟨declaration.name, Name.constName (fieldsIn front declaration), fieldsIn front declaration,
    declaration.value, declaration.line⟩

section Insertion

/-- A path below the fields `above` that a claim has to open: it leads to the variable of the
claim and to none that is there. -/
structure Claim.Opens (claim : Claim) (above : List String) (nodes : List Node)
    (path : List String) : Prop where
  isAbove : IsAbove above path
  inside : path <+: claim.fields
  noneBelow : ∀ leaf ∈ leavesOf nodes, ¬ path <+: leaf.path

variable {claim : Claim} {opened : List String → Nat} {position : Nat}
  {above rest path : List String} {nodes nodesAfter before after children : List Node}
  {name field typeName : String}

/-- The next field of a claim is opened where it is fresh. -/
theorem Claim.opens_of_fresh (placed : WellPlacedList above nodes)
    (remaining : claim.fields = above ++ field :: rest)
    (fresh : ∀ node ∈ nodes, node.field ≠ field) : claim.Opens above nodes (above ++ [field]) where
  isAbove := isAbove_append (by simp)
  inside := ⟨rest, by rw [remaining, ← List.append_cons]⟩
  noneBelow := (forall_field_ne_iff placed).mp fresh

/-- What is opened in a group is opened beside its neighbours, too. -/
theorem Claim.Opens.of_group
    (placed : WellPlacedList above (before ++ .group name field typeName children :: after))
    (apart : ∀ node ∈ before ++ after, node.field ≠ field)
    (opens : claim.Opens (above ++ [field]) children path) :
    claim.Opens above (before ++ .group name field typeName children :: after) path where
  isAbove := opens.isAbove.widen (List.prefix_append above [field])
  inside := opens.inside
  noneBelow := fun leaf member below => opens.noneBelow leaf
    ((mem_leavesOf_group placed apart).mpr ⟨member, opens.isAbove.1.trans below⟩) below

/-- All that is opened in a new group is new. -/
theorem Claim.Opens.of_fresh (placed : WellPlacedList above nodes)
    (fresh : ∀ node ∈ nodes, node.field ≠ field)
    (opens : claim.Opens (above ++ [field]) [] path) : claim.Opens above nodes path where
  isAbove := opens.isAbove.widen (List.prefix_append above [field])
  inside := opens.inside
  noneBelow := fun leaf member below =>
    (forall_field_ne_iff placed).mp fresh leaf member (opens.isAbove.1.trans below)

/-- What is opened for a claim comes after all that is there. -/
theorem opened_lt_of_fresh (placed : WellPlacedList above nodes)
    (remaining : claim.fields = above ++ field :: rest)
    (fresh : ∀ node ∈ nodes, node.field ≠ field)
    (old : ∀ leaf ∈ leavesOf nodes, ∀ path, path <+: leaf.path → opened path < position)
    (new : ∀ path, claim.Opens above nodes path → position ≤ opened path) :
    ∀ node ∈ nodes, opened (above ++ [node.field]) < opened (above ++ [field]) := by
  intro node member
  obtain ⟨first, others, rfl⟩ := List.append_of_mem member
  obtain ⟨-, ⟨-, nodePlaced, -⟩, -⟩ := wellPlacedList_append.mp placed
  obtain ⟨leaf, inNode⟩ := exists_mem_leaves nodePlaced
  have inNodes : leaf ∈ leavesOf (first ++ node :: others) := by simp [leavesOf, inNode]
  have isOld := old leaf inNodes _ (prefix_of_mem_leaves nodePlaced inNode)
  have isNew := new _ (Claim.opens_of_fresh placed remaining fresh)
  exact Nat.lt_of_lt_of_le isOld isNew

/-- An insertion keeps the order if everything that is there was opened before a position and
whatever the claim opens is opened from it on. -/
theorem Placement.areInOrder {passed : Nat} {segments : List (String × String)}
    {types typesAfter : List (String × String)}
    (placement : Placement claim passed types segments nodes nodesAfter typesAfter)
    (remaining : claim.fields = above ++ segments.map Prod.snd)
    (placed : WellPlacedList above nodes)
    (old : ∀ leaf ∈ leavesOf nodes, ∀ path, path <+: leaf.path → opened path < position)
    (new : ∀ path, claim.Opens above nodes path → position ≤ opened path)
    (ordered : AreInOrder opened above nodes) : AreInOrder opened above nodesAfter := by
  induction placement generalizing above with
  | leaf fresh =>
      have earlier := opened_lt_of_fresh placed remaining fresh old new
      exact areInOrder_append.mpr ⟨ordered, ⟨by simp, trivial, trivial⟩,
        fun node member other isNew => List.mem_singleton.mp isNew ▸ earlier node member⟩
  | @enter passed types typesAfter before after children childrenAfter name field typeName
      segment next rest apart inner induction =>
      obtain ⟨beforeOrdered, ⟨later, childrenOrdered, afterOrdered⟩, beside⟩ :=
        areInOrder_append.mp ordered
      obtain ⟨-, ⟨-, ⟨-, childrenPlaced⟩, -⟩, -⟩ := wellPlacedList_append.mp placed
      have innerOrdered : AreInOrder opened (above ++ [field]) childrenAfter := by
        refine induction (by simpa using remaining) childrenPlaced ?_ ?_ childrenOrdered
        · intro leaf member
          exact old leaf ((mem_leavesOf_group placed apart).mp member).1
        · exact fun path opens => new path (opens.of_group placed apart)
      exact areInOrder_append.mpr ⟨beforeOrdered, ⟨later, innerOrdered, afterOrdered⟩,
        fun node member => List.forall_mem_cons.mpr (List.forall_mem_cons.mp (beside node member))⟩
  | @create passed types typesAfter nodes children typeName path' segment field next rest fresh
      named unclaimed inner induction =>
      have earlier := opened_lt_of_fresh placed remaining fresh old new
      have innerOrdered : AreInOrder opened (above ++ [field]) children := by
        refine induction (by simpa using remaining) trivial (fun leaf member => by cases member)
          ?_ trivial
        exact fun path opens => new path (opens.of_fresh placed fresh)
      exact areInOrder_append.mpr ⟨ordered, ⟨by simp, innerOrdered, trivial⟩,
        fun node member other isNew => List.mem_singleton.mp isNew ▸ earlier node member⟩

end Insertion

namespace Builder

variable {front : Option String} {placed rest declarations : List Declaration}
  {declaration : Declaration} {builder builderAfter : Builder} {path : List String}

/-- The node of a path above a variable was opened by a declaration that was placed. -/
theorem Represents.openedAt_lt (represents : Represents front placed builder) {leaf : Leaf}
    (member : leaf ∈ leavesOf builder.roots) (inside : path <+: leaf.path) :
    openedAt front (placed ++ rest) path < placed.length := by
  obtain ⟨earlier, isPlaced, samePath⟩ := represents.exists_declaration member
  have opens : (placed.findIdx fun declaration => path.isPrefixOf (fieldsIn front declaration)) <
      placed.length :=
    List.findIdx_lt_length_of_exists
      ⟨earlier, isPlaced, List.isPrefixOf_iff_prefix.mpr (samePath ▸ inside)⟩
  rw [openedAt, List.findIdx_append, if_pos opens]
  exact opens

/-- The node of a path that is above no variable is not opened yet. -/
theorem Represents.le_openedAt (represents : Represents front placed builder)
    (noneBelow : ∀ leaf ∈ leavesOf builder.roots, ¬ path <+: leaf.path) :
    placed.length ≤ openedAt front (placed ++ rest) path := by
  have unopened : (placed.findIdx fun declaration =>
      path.isPrefixOf (fieldsIn front declaration)) = placed.length := by
    refine List.findIdx_eq_length.mpr fun earlier isPlaced => ?_
    obtain ⟨leaf, member, samePath⟩ := represents.exists_leaf isPlaced
    rw [Bool.eq_false_iff, ne_eq, List.isPrefixOf_iff_prefix, ← samePath]
    exact noneBelow leaf member
  rw [openedAt, List.findIdx_append, unopened, if_neg (Nat.lt_irrefl _)]
  exact Nat.le_add_left _ _

/-- What a declaration changes is one placement. -/
theorem Represents.exists_placement (represents : Represents front placed builder)
    (added : builder.add front declaration = .ok builderAfter) :
    ∃ claim types, claim.Of front declaration ∧ Placement claim 0 builder.types
      (claim.segments.zip claim.fields) builder.roots builderAfter.roots types := by
  obtain ⟨claim, taken, addedClaim⟩ := add_eq_ok_iff.mp added
  obtain ⟨-, roots, types, inserted, rfl⟩ := addClaim_eq_ok_iff.mp addedClaim
  exact ⟨claim, types, taken, .of_place taken.zip.1 represents.wellPlaced inserted⟩

/-- Each declaration keeps the order in which nodes are opened. -/
theorem areInOrder_of_add (represents : Represents front placed builder)
    (ordered : AreInOrder (openedAt front (placed ++ declaration :: rest)) [] builder.roots)
    (added : builder.add front declaration = .ok builderAfter) :
    AreInOrder (openedAt front (placed ++ declaration :: rest)) [] builderAfter.roots := by
  obtain ⟨claim, types, taken, placement⟩ := represents.exists_placement added
  have old : ∀ leaf ∈ leavesOf builder.roots, ∀ path, path <+: leaf.path →
      openedAt front (placed ++ declaration :: rest) path < placed.length :=
    fun leaf member path inside => represents.openedAt_lt member inside
  exact placement.areInOrder taken.zip.2.symm represents.wellPlaced old
    (fun path opens => represents.le_openedAt opens.noneBelow) ordered

end Builder

namespace Forest

variable {declarations : List Declaration} {front : Option String} {forest : Forest}

theorem areInOrder_of_build (built : build declarations front = .ok forest) :
    AreInOrder (openedAt (front.bind normalizePrefix?) declarations) [] forest.roots := by
  apply build_induction built
  · trivial
  · rintro placed declaration rest builder builderAfter rfl represents ordered added
    exact Builder.areInOrder_of_add represents ordered added

/-- The variables of a configuration are those that its declarations ask for. -/
theorem leaves_perm_of_build (built : build declarations front = .ok forest) :
    forest.leaves.Perm (declarations.map (leafIn (front.bind normalizePrefix?))) := by
  obtain ⟨claims, related, leaves⟩ := leaves_of_build built
  have sameLeaves : claims.map Claim.leaf =
      declarations.map (leafIn (front.bind normalizePrefix?)) := by
    clear leaves built
    induction related with
    | nil => rfl
    | cons taken others induction =>
        rw [List.map_cons, List.map_cons, induction]
        rw [Claim.leaf, Claim.constName, leafIn, taken.fields_eq, taken.envName, taken.default,
          taken.line]
  exact sameLeaves ▸ leaves

end Forest

section Positions

variable {front : Option String} {declarations before inside after : List Declaration}
  {above path longer group : List String} {position : Nat}

theorem openedAt_le (bound : position < declarations.length)
    (through : path <+: fieldsIn front declarations[position]) :
    openedAt front declarations path ≤ position := by
  rw [openedAt, ← Nat.not_lt]
  intro later
  have notThrough := List.not_of_lt_findIdx later
  rw [Bool.eq_false_iff, ne_eq, List.isPrefixOf_iff_prefix] at notThrough
  exact notThrough through

/-- The declaration that opens a path goes through it. -/
theorem prefix_of_openedAt (bound : openedAt front declarations path < declarations.length) :
    path <+: fieldsIn front declarations[openedAt front declarations path] := by
  rw [← List.isPrefixOf_iff_prefix]
  exact List.findIdx_getElem (w := bound)

/-- When no declaration is on the path of another, each one opens its own path. -/
theorem openedAt_fieldsIn
    (apart : declarations.Pairwise fun first second =>
      Apart (fieldsIn front first) (fieldsIn front second))
    (bound : position < declarations.length) :
    openedAt front declarations (fieldsIn front declarations[position]) = position := by
  refine (List.findIdx_eq bound).mpr ⟨List.isPrefixOf_iff_prefix.mpr List.prefix_rfl, ?_⟩
  intro earlier isEarlier
  rw [Bool.eq_false_iff, ne_eq, List.isPrefixOf_iff_prefix]
  exact (List.pairwise_iff_getElem.mp apart earlier position _ bound isEarlier).2

/-- The declarations below each group stand together. -/
def GroupsTogether (front : Option String) (declarations : List Declaration) : Prop :=
  ∀ group, ∃ before inside after, declarations = before ++ inside ++ after ∧
    (∀ declaration ∈ inside, IsSectionOf group (fieldsIn front declaration)) ∧
    ∀ declaration ∈ before ++ after, ¬ IsSectionOf group (fieldsIn front declaration)

/-- What stands between two declarations below a group is below it, too. -/
theorem GroupsTogether.between (together : GroupsTogether front declarations)
    {first second third : Nat} (bound : third < declarations.length) (toSecond : first < second)
    (toThird : second < third) (firstBelow : IsSectionOf group (fieldsIn front declarations[first]))
    (thirdBelow : IsSectionOf group (fieldsIn front declarations[third])) :
    IsSectionOf group (fieldsIn front declarations[second]) := by
  obtain ⟨before, inside, after, rfl, below, notBelow⟩ := together group
  have notBefore : ¬ first < before.length := by
    intro isBefore
    rw [List.getElem_append_left (by simp; omega), List.getElem_append_left isBefore] at firstBelow
    exact notBelow _ (List.mem_append_left _ (List.getElem_mem _)) firstBelow
  have notAfter : ¬ (before ++ inside).length ≤ third := by
    intro isAfter
    rw [List.getElem_append_right isAfter] at thirdBelow
    exact notBelow _ (List.mem_append_right _ (List.getElem_mem _)) thirdBelow
  rw [List.getElem_append_left (by omega), List.getElem_append_right (by omega)]
  exact below _ (List.getElem_mem _)

/-- When groups stand together, paths part in the order of their declarations. -/
theorem GroupsTogether.lt_of_branchesBefore (together : GroupsTogether front declarations)
    (apart : declarations.Pairwise fun first second =>
      Apart (fieldsIn front first) (fieldsIn front second))
    {first second : Nat} (firstBound : first < declarations.length)
    (secondBound : second < declarations.length)
    (branches : BranchesBefore (openedAt front declarations) (fieldsIn front declarations[first])
      (fieldsIn front declarations[second])) :
    first < second := by
  have notSame : first ≠ second := by
    rintro rfl
    exact branches.apart.1 List.prefix_rfl
  obtain ⟨above, field, other, fieldInside, otherInside, earlier⟩ := branches
  have firstOpened := openedAt_le firstBound fieldInside
  have secondOpened := openedAt_le secondBound otherInside
  by_contra notBefore
  have opens := prefix_of_openedAt (Nat.lt_of_le_of_lt firstOpened firstBound)
  -- the opening declaration and the first one are both below the node, and apart from each other
  have pairApart := List.pairwise_iff_getElem.mp apart _ first
    (Nat.lt_of_le_of_lt firstOpened firstBound) firstBound (by omega)
  have openingBelow : IsSectionOf (above ++ [field])
      (fieldsIn front declarations[openedAt front declarations (above ++ [field])]) :=
    ⟨by simp, opens, fun same => pairApart.1 (same ▸ fieldInside)⟩
  have firstBelow : IsSectionOf (above ++ [field]) (fieldsIn front declarations[first]) :=
    ⟨by simp, fieldInside, fun same => pairApart.2 (same ▸ opens)⟩
  have afterOpening : openedAt front declarations (above ++ [field]) < second := by omega
  have beforeFirst : second < first := by omega
  have between := together.between firstBound afterOpening beforeFirst openingBelow firstBelow
  obtain rfl := next_field_eq between.2.1 otherInside
  exact absurd earlier (Nat.lt_irrefl _)

/-- Variables are determined by the order in which their paths are opened. -/
theorem eq_of_pairwise_opened {opened : List String → Nat} {leaves others : List Leaf}
    (permutation : leaves.Perm others)
    (leavesOrdered : leaves.Pairwise fun one other => opened one.path < opened other.path)
    (othersOrdered : others.Pairwise fun one other => opened one.path < opened other.path) :
    leaves = others :=
  List.Perm.eq_of_pairwise
    (fun _ _ _ _ before behind => absurd (Nat.lt_trans before behind) (Nat.lt_irrefl _))
    leavesOrdered othersOrdered permutation

end Positions

namespace Forest

variable {declarations : List Declaration} {front : Option String} {forest : Forest}

/-- In which order a configuration has its nodes and variables. -/
structure KeepsOrder (front : Option String) (declarations : List Declaration) (forest : Forest) :
    Prop where
  /-- Neighbours come in the order of the first declarations that go through them. -/
  nodes : AreInOrder (openedAt front declarations) [] forest.roots
  /-- Of two variables, the one comes first whose branch was opened first. -/
  leaves : forest.leaves.Pairwise fun one other =>
    BranchesBefore (openedAt front declarations) one.path other.path
  /-- The variables right in a group come in the order of their declarations. -/
  in_group : ∀ group, forest.leaves.filter (·.path.dropLast = group) =
    (declarations.map (leafIn front)).filter (·.path.dropLast = group)
  /-- If the declarations of every group stand together, so do its variables. -/
  together : GroupsTogether front declarations →
    forest.leaves = declarations.map (leafIn front)

/-- A configuration has its nodes in the order in which declarations open them. -/
theorem build_keeps_order (built : build declarations front = .ok forest) :
    forest.KeepsOrder (front.bind normalizePrefix?) declarations := by
  have ordered := areInOrder_of_build built
  have branches := pairwise_leavesOf (wellPlaced_of_build built) ordered
  have permutation := leaves_perm_of_build built
  generalize front.bind normalizePrefix? = stripped at ordered branches permutation ⊢
  have apart : declarations.Pairwise fun first second =>
      Apart (fieldsIn stripped first) (fieldsIn stripped second) := by
    have leavesApart := branches.imp BranchesBefore.apart
    have symmetric : ∀ {one other : Leaf}, Apart one.path other.path → Apart other.path one.path :=
      fun apart => ⟨apart.2, apart.1⟩
    have declaredApart := List.pairwise_map.mp ((permutation.pairwise_iff symmetric).mp leavesApart)
    exact declaredApart
  have declared : (declarations.map (leafIn stripped)).Pairwise fun one other =>
      openedAt stripped declarations one.path < openedAt stripped declarations other.path := by
    refine List.pairwise_map.mpr (List.pairwise_iff_getElem.mpr ?_)
    intro first second firstBound secondBound before
    rwa [leafIn, leafIn, openedAt_fieldsIn apart firstBound, openedAt_fieldsIn apart secondBound]
  refine ⟨ordered, branches, ?_, ?_⟩
  · intro group
    refine eq_of_pairwise_opened (permutation.filter _) ?_ (declared.sublist List.filter_sublist)
    refine (branches.sublist List.filter_sublist).imp_of_mem ?_
    intro one other isOne isOther branch
    have oneGroup : one.path.dropLast = group := by simpa using (List.mem_filter.mp isOne).2
    have otherGroup : other.path.dropLast = group := by simpa using (List.mem_filter.mp isOther).2
    exact branch.lt_of_dropLast (oneGroup.trans otherGroup.symm)
  · intro together
    refine eq_of_pairwise_opened permutation (branches.imp_of_mem ?_) declared
    intro one other isOne isOther branch
    obtain ⟨first, isFirst, rfl⟩ := List.mem_map.mp (permutation.mem_iff.mp isOne)
    obtain ⟨second, isSecond, rfl⟩ := List.mem_map.mp (permutation.mem_iff.mp isOther)
    obtain ⟨position, firstBound, rfl⟩ := List.getElem_of_mem isFirst
    obtain ⟨later, secondBound, rfl⟩ := List.getElem_of_mem isSecond
    rw [leafIn, leafIn, openedAt_fieldsIn apart firstBound, openedAt_fieldsIn apart secondBound]
    exact together.lt_of_branchesBefore apart firstBound secondBound branch

theorem build_keeps_order_interleaved :
    build interleaved (some "P") = .ok interleavedForest ∧
      interleavedForest.KeepsOrder (some "P_") interleaved :=
  have built : build interleaved (some "P") = .ok interleavedForest := rfl
  ⟨built, build_keeps_order built⟩

end Forest

end TypedEnv.Config
