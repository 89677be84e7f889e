import TypedEnv.Proofs.Config.Order

/-!
# Variables by their normalized names

A group is entered by field names but searched by normalized names, and a node
has the normalized name of the segment with which the first declaration
through it spells it.  A variable is reached by its own normalized names
exactly when each of them leads on to its path: the node there was opened with
a segment of this normalized name, and no neighbour before it was.
-/

namespace TypedEnv.Config

open Node

namespace Node

mutual

/-- A node and those below it have the normalized names that belong to their paths. -/
def IsSpelled (named : List String → Option String) (above : List String) : Node → Prop
  | .leaf name field _ => named (above ++ [field]) = some name
  | .group name field _ children =>
      named (above ++ [field]) = some name ∧ AreSpelled named (above ++ [field]) children

def AreSpelled (named : List String → Option String) (above : List String) : List Node → Prop
  | [] => True
  | node :: rest => node.IsSpelled named above ∧ AreSpelled named above rest

end

variable {named : List String → Option String} {above : List String} {first second : List Node}
  {node : Node}

theorem areSpelled_append :
    AreSpelled named above (first ++ second) ↔
      AreSpelled named above first ∧ AreSpelled named above second := by
  induction first with
  | nil => simp [AreSpelled]
  | cons node rest induction => simp [AreSpelled, induction, and_assoc]

theorem IsSpelled.named_eq (spelled : node.IsSpelled named above) :
    named (above ++ [node.field]) = some node.name := by
  cases node with
  | leaf name field entry => exact spelled
  | group name field typeName children => exact spelled.1

/-- The node that is reached from some nodes through normalized names. -/
def reach? (nodes : List Node) : List String → Option Node
  | [] => none
  | [name] => nodes.find? (·.name == name)
  | name :: next :: rest =>
      (nodes.find? (·.name == name)).bind fun node => reach? node.children (next :: rest)

theorem foldlM_child?_eq (node : Node) (name : String) (rest : List String) :
    (name :: rest).foldlM (fun node name => node.child? name) node =
      reach? node.children (name :: rest) := by
  induction rest generalizing node name with
  | nil =>
      rw [List.foldlM_cons, reach?, child?]
      cases node.children.find? (·.name == name) <;> rfl
  | cons next rest induction =>
      rw [List.foldlM_cons, reach?, child?]
      cases node.children.find? (·.name == name) with
      | none => rfl
      | some child => exact induction child next

end Node

theorem Forest.follow?_eq_reach? (forest : Forest) (names : List String) :
    forest.follow? names = reach? forest.roots names := by
  cases names with
  | nil => rfl
  | cons name rest =>
      rw [follow?, find?]
      cases rest with
      | nil =>
          rw [reach?]
          cases forest.roots.find? (·.name == name) <;> rfl
      | cons next rest =>
          rw [reach?]
          cases forest.roots.find? (·.name == name) with
          | none => rfl
          | some node => exact foldlM_child?_eq node next rest

section Insertion

variable {claim : Claim} {named : List String → Option String} {above : List String}
  {nodes nodesAfter : List Node}

/-- The normalized name that a claim gives to a node on its path. -/
def Claim.nameAt (claim : Claim) (path : List String) : Option String :=
  (claim.segments[path.length - 1]?).map (Name.normalize true)

/-- What follows a part of the steps of a claim begins with its next segment. -/
theorem Claim.nameAt_of_zip {skipped rest : List (String × String)} {segment field : String}
    (remaining : claim.segments.zip claim.fields = skipped ++ (segment, field) :: rest) :
    claim.nameAt (skipped.map Prod.snd ++ [field]) = some (Name.normalize true segment) := by
  have step : (claim.segments.zip claim.fields)[skipped.length]? = some (segment, field) := by
    rw [remaining]
    simp
  have isSegment := (List.getElem?_zip_eq_some.mp step).1
  simp [nameAt, isSegment]

/-- An insertion keeps the normalized names if whatever the claim opens is named by the claim. -/
theorem Placement.areSpelled {passed : Nat} {skipped segments : List (String × String)}
    {types typesAfter : List (String × String)}
    (placement : Placement claim passed types segments nodes nodesAfter typesAfter)
    (isZip : (claim.segments.zip claim.fields).map Prod.snd = claim.fields)
    (remaining : claim.segments.zip claim.fields = skipped ++ segments)
    (position : above = skipped.map Prod.snd)
    (placed : WellPlacedList above nodes)
    (new : ∀ path, claim.Opens above nodes path → named path = claim.nameAt path)
    (spelled : AreSpelled named above nodes) : AreSpelled named above nodesAfter := by
  have fields : claim.fields = above ++ segments.map Prod.snd := by
    rw [← isZip, remaining, List.map_append, position]
  induction placement generalizing above skipped with
  | leaf fresh =>
      have opens := new _ (Claim.opens_of_fresh placed fields fresh)
      rw [position, Claim.nameAt_of_zip remaining, ← position] at opens
      exact areSpelled_append.mpr ⟨spelled, opens, trivial⟩
  | @enter passed types typesAfter before after children childrenAfter name field typeName
      segment next rest apart inner induction =>
      obtain ⟨beforeSpelled, ⟨groupSpelled, childrenSpelled⟩, afterSpelled⟩ :=
        areSpelled_append.mp spelled
      obtain ⟨-, ⟨-, ⟨-, childrenPlaced⟩, -⟩, -⟩ := wellPlacedList_append.mp placed
      have goesOn : claim.segments.zip claim.fields =
          (skipped ++ [(segment, field)]) ++ next :: rest := by
        simpa using remaining
      have innerSpelled : AreSpelled named (above ++ [field]) childrenAfter := by
        refine induction goesOn (by simp [position]) childrenPlaced ?_ childrenSpelled
          (by simpa using fields)
        exact fun path opens => new path (opens.of_group placed apart)
      exact areSpelled_append.mpr ⟨beforeSpelled, ⟨groupSpelled, innerSpelled⟩, afterSpelled⟩
  | @create passed types typesAfter nodes children typeName path' segment field next rest fresh
      opened unclaimed inner induction =>
      have opens := new _ (Claim.opens_of_fresh placed fields fresh)
      rw [position, Claim.nameAt_of_zip remaining, ← position] at opens
      have goesOn : claim.segments.zip claim.fields =
          (skipped ++ [(segment, field)]) ++ next :: rest := by
        simpa using remaining
      have innerSpelled : AreSpelled named (above ++ [field]) children := by
        refine induction goesOn (by simp [position]) trivial ?_ trivial (by simpa using fields)
        exact fun path opens => new path (opens.of_fresh placed fresh)
      exact areSpelled_append.mpr ⟨spelled, ⟨opens, innerSpelled⟩, trivial⟩

end Insertion

section Search

variable {named : List String → Option String} {opened : List String → Nat}
  {above : List String} {nodes : List Node} {node found : Node} {leaf : Leaf}

/-- From below the fields `above`, a normalized name leads to the node of a field: this node has
the name, and no neighbour that was opened before it. -/
def LeadsTo (named : List String → Option String) (opened : List String → Nat)
    (above : List String) (name field : String) : Prop :=
  named (above ++ [field]) = some name ∧
    ∀ other, opened (above ++ [other]) < opened (above ++ [field]) →
      named (above ++ [other]) ≠ some name

theorem named_of_mem (spelled : AreSpelled named above nodes) (member : node ∈ nodes) :
    named (above ++ [node.field]) = some node.name := by
  obtain ⟨first, others, rfl⟩ := List.append_of_mem member
  exact (areSpelled_append.mp spelled).2.1.named_eq

/-- The nodes in front of a node are those that were opened before it. -/
theorem mem_first_iff {first others : List Node} {other : Node}
    (ordered : AreInOrder opened above (first ++ node :: others))
    (member : other ∈ first ++ node :: others) :
    opened (above ++ [other.field]) < opened (above ++ [node.field]) ↔ other ∈ first := by
  obtain ⟨-, ⟨behind, -, -⟩, before⟩ := areInOrder_append.mp ordered
  refine ⟨fun earlier => ?_, fun isFirst => before other isFirst node List.mem_cons_self⟩
  rcases List.mem_append.mp member with isFirst | isLater
  · exact isFirst
  · rcases List.mem_cons.mp isLater with rfl | isBehind
    · exact absurd earlier (Nat.lt_irrefl _)
    · exact absurd (Nat.lt_trans earlier (behind other isBehind)) (Nat.lt_irrefl _)

/-- The search for a normalized name finds the node that was opened first among those of this
name. -/
theorem find?_name_eq_some_iff (ordered : AreInOrder opened above nodes)
    (spelled : AreSpelled named above nodes) (member : node ∈ nodes) {name : String} :
    nodes.find? (·.name == name) = some node ↔
      named (above ++ [node.field]) = some name ∧ ∀ other ∈ nodes,
        opened (above ++ [other.field]) < opened (above ++ [node.field]) →
          named (above ++ [other.field]) ≠ some name := by
  rw [named_of_mem spelled member, Option.some_inj]
  constructor
  · intro isFound
    obtain ⟨isNamed, first, others, rfl, noneBefore⟩ := List.find?_eq_some_iff_append.mp isFound
    refine ⟨by simpa using isNamed, fun other isNode earlier => ?_⟩
    have isFirst := (mem_first_iff ordered isNode).mp earlier
    rw [named_of_mem spelled isNode, ne_eq, Option.some_inj]
    simpa using noneBefore other isFirst
  · intro ⟨isNamed, noneBefore⟩
    obtain ⟨first, others, rfl⟩ := List.append_of_mem member
    refine List.find?_eq_some_iff_append.mpr ⟨by simp [isNamed], first, others, rfl, ?_⟩
    intro other isFirst
    have isNode : other ∈ first ++ node :: others := List.mem_append_left _ isFirst
    have otherNamed := noneBefore other isNode ((mem_first_iff ordered isNode).mpr isFirst)
    rw [named_of_mem spelled isNode, ne_eq, Option.some_inj] at otherNamed
    simpa using otherNamed

/-- What is known about the nodes below some fields: where they stand, in which order, how they
are named, and that no path is missing that was opened before a position. -/
structure AreCharted (named : List String → Option String) (opened : List String → Nat)
    (count : Nat) (above : List String) (nodes : List Node) : Prop where
  placed : WellPlacedList above nodes
  ordered : AreInOrder opened above nodes
  spelled : AreSpelled named above nodes
  complete : ∀ path, IsAbove above path → opened path < count →
    ∃ leaf ∈ leavesOf nodes, path <+: leaf.path

variable {count : Nat} {name field typeName : String} {inside : List Node}

theorem AreCharted.group (charted : AreCharted named opened count above nodes)
    (member : .group name field typeName inside ∈ nodes) :
    AreCharted named opened count (above ++ [field]) inside := by
  obtain ⟨placed, ordered, spelled, complete⟩ := charted
  obtain ⟨before, after, rfl⟩ := List.append_of_mem member
  obtain ⟨-, ⟨later, ⟨-, insidePlaced⟩, -⟩, beside⟩ := wellPlacedList_append.mp placed
  have apart : ∀ node ∈ before ++ after, node.field ≠ field := by
    intro node isNeighbour
    rcases List.mem_append.mp isNeighbour with isBefore | isAfter
    · exact (beside node isBefore _ List.mem_cons_self).symm
    · exact later node isAfter
  refine ⟨insidePlaced, (areInOrder_append.mp ordered).2.1.2.1,
    (areSpelled_append.mp spelled).2.1.2, ?_⟩
  intro path isAbove isOpened
  obtain ⟨leaf, inNodes, below⟩ :=
    complete path (isAbove.widen (List.prefix_append above [field])) isOpened
  exact ⟨leaf, (mem_leavesOf_group placed apart).mpr ⟨inNodes, isAbove.1.trans below⟩, below⟩

/-- A normalized name leads to the node of a field exactly when the search for it finds this
node. -/
theorem AreCharted.find?_eq_some_iff (charted : AreCharted named opened count above nodes)
    (bounded : ∀ path, opened path ≤ count) (member : node ∈ nodes) :
    nodes.find? (·.name == name) = some node ↔ LeadsTo named opened above name node.field := by
  rw [find?_name_eq_some_iff charted.ordered charted.spelled member]
  refine and_congr_right fun _ => ⟨fun noneBefore other earlier => ?_, fun noneBefore other _ =>
    noneBefore other.field⟩
  have isOpened := Nat.lt_of_lt_of_le earlier (bounded _)
  obtain ⟨leaf, inNodes, inside⟩ := charted.complete _ (isAbove_append (by simp)) isOpened
  obtain ⟨neighbour, isNode, otherInside⟩ := exists_node_of_mem_leavesOf charted.placed inNodes
  obtain rfl := next_field_eq otherInside inside
  exact noneBefore neighbour isNode earlier

theorem mem_leavesOf_iff : leaf ∈ leavesOf nodes ↔ ∃ node ∈ nodes, leaf ∈ node.leaves := by
  induction nodes with
  | nil => simp [leavesOf]
  | cons node rest induction => simp [leavesOf, induction]

theorem mem_leaves_of_leaf? (isLeaf : node.leaf? = some leaf) : leaf ∈ node.leaves := by
  cases node with
  | leaf name field entry =>
      cases isLeaf
      exact List.mem_singleton_self _
  | group name field typeName children => cases isLeaf

theorem mem_leaves_of_children (member : leaf ∈ leavesOf node.children) : leaf ∈ node.leaves := by
  cases node with
  | leaf name field entry => cases member
  | group name field typeName children => exact member

/-- What is reached below some nodes is one of their variables. -/
theorem mem_leavesOf_of_reach? {names : List String} (reached : reach? nodes names = some found)
    (isLeaf : found.leaf? = some leaf) : leaf ∈ leavesOf nodes := by
  fun_induction reach? nodes names with
  | case1 => cases reached
  | case2 nodes name =>
      exact mem_leavesOf_iff.mpr
        ⟨found, List.mem_of_find?_eq_some reached, mem_leaves_of_leaf? isLeaf⟩
  | case3 nodes name next rest induction =>
      obtain ⟨node, isFound, goesOn⟩ := Option.bind_eq_some_iff.mp reached
      exact mem_leavesOf_iff.mpr
        ⟨node, List.mem_of_find?_eq_some isFound, mem_leaves_of_children (induction node goesOn)⟩

/-- Each segment leads on from the fields of those before it to its own field. -/
def LeadOn (named : List String → Option String) (opened : List String → Nat)
    (above : List String) : List String → Prop
  | [] => True
  | segment :: rest =>
      LeadsTo named opened above (Name.normalize true segment) (Name.field segment) ∧
        LeadOn named opened (above ++ [Name.field segment]) rest

/-- The node above a variable has the next field of its path. -/
theorem field_eq_of_path {rest : List String} (placed : node.WellPlaced above)
    (inNode : leaf ∈ node.leaves) (path : leaf.path = above ++ field :: rest) :
    node.field = field := by
  refine next_field_eq (prefix_of_mem_leaves placed inNode) ?_
  exact ⟨rest, by rw [path, ← List.append_cons]⟩

theorem wellPlaced_of_mem (placed : WellPlacedList above nodes) (member : node ∈ nodes) :
    node.WellPlaced above := by
  obtain ⟨first, others, rfl⟩ := List.append_of_mem member
  exact (wellPlacedList_append.mp placed).2.1.2.1

/-- A variable stands at the end of its path. -/
theorem leaf?_of_path (placed : node.WellPlaced above) (inNode : leaf ∈ node.leaves)
    (path : leaf.path = above ++ [field]) : node.leaf? = some leaf := by
  cases node with
  | leaf name other entry =>
      obtain rfl := List.mem_singleton.mp inNode
      rfl
  | group name other typeName children =>
      obtain ⟨child, -, inside⟩ := exists_node_of_mem_leavesOf placed.2 inNode
      have tooLong := inside.length_le
      simp [path] at tooLong

/-- A path that goes on leads into a group. -/
theorem mem_leavesOf_children_of_path {next : String} {rest : List String}
    (placed : node.WellPlaced above) (inNode : leaf ∈ node.leaves)
    (path : leaf.path = above ++ field :: next :: rest) : leaf ∈ leavesOf node.children := by
  cases node with
  | leaf name other entry =>
      obtain rfl := List.mem_singleton.mp inNode
      have isEnd : leaf.path = above ++ [other] := placed
      simp [isEnd] at path
  | group name other typeName children => exact inNode

/-- A variable is reached by normalized names exactly when each of them leads on. -/
theorem AreCharted.reach?_iff {segments : List String}
    (charted : AreCharted named opened count above nodes) (bounded : ∀ path, opened path ≤ count)
    (nonempty : segments ≠ []) (member : leaf ∈ leavesOf nodes)
    (path : leaf.path = above ++ segments.map Name.field) :
    (∃ found, reach? nodes (segments.map (Name.normalize true)) = some found ∧
      found.leaf? = some leaf) ↔ LeadOn named opened above segments := by
  induction segments generalizing above nodes with
  | nil => exact absurd rfl nonempty
  | cons segment rest induction =>
      have head : ∀ node ∈ nodes, leaf ∈ node.leaves →
          (nodes.find? (·.name == Name.normalize true segment) = some node ↔
            LeadsTo named opened above (Name.normalize true segment) (Name.field segment)) := by
        intro node isNode inNode
        rw [← field_eq_of_path (wellPlaced_of_mem charted.placed isNode) inNode path]
        exact charted.find?_eq_some_iff bounded isNode
      obtain ⟨node, isNode, inNode⟩ := mem_leavesOf_iff.mp member
      have nodePlaced := wellPlaced_of_mem charted.placed isNode
      cases rest with
      | nil =>
          rw [List.map_singleton, reach?, LeadOn, LeadOn, and_true]
          constructor
          · intro ⟨found, isFound, isLeaf⟩
            exact (head found (List.mem_of_find?_eq_some isFound) (mem_leaves_of_leaf? isLeaf)).mp
              isFound
          · intro leads
            exact ⟨node, (head node isNode inNode).mpr leads, leaf?_of_path nodePlaced inNode path⟩
      | cons next others =>
          have tail : ∀ node ∈ nodes, leaf ∈ leavesOf node.children →
              ((∃ found, reach? node.children
                  ((next :: others).map (Name.normalize true)) = some found ∧
                found.leaf? = some leaf) ↔
                  LeadOn named opened (above ++ [Name.field segment]) (next :: others)) := by
            intro node isNode inside
            cases node with
            | leaf name field entry => cases inside
            | group name field typeName children =>
                have sameField : field = Name.field segment :=
                  field_eq_of_path (wellPlaced_of_mem charted.placed isNode) inside path
                have goesOn : leaf.path = above ++ [field] ++ (next :: others).map Name.field := by
                  rw [path, sameField, List.map_cons, ← List.append_cons]
                rw [← sameField]
                exact induction (charted.group isNode) (by simp) inside goesOn
          rw [List.map_cons, List.map_cons, reach?, LeadOn, ← List.map_cons]
          constructor
          · intro ⟨found, reached, isLeaf⟩
            obtain ⟨first, isFirst, goesOn⟩ := Option.bind_eq_some_iff.mp reached
            have firstNode := List.mem_of_find?_eq_some isFirst
            have inside := mem_leavesOf_of_reach? goesOn isLeaf
            exact ⟨(head first firstNode (mem_leaves_of_children inside)).mp isFirst,
              (tail first firstNode inside).mp ⟨found, goesOn, isLeaf⟩⟩
          · intro ⟨leads, leadOn⟩
            have inside := mem_leavesOf_children_of_path nodePlaced inNode path
            obtain ⟨found, goesOn, isLeaf⟩ := (tail node isNode inside).mpr leadOn
            exact ⟨found, Option.bind_eq_some_iff.mpr
              ⟨node, (head node isNode inNode).mpr leads, goesOn⟩, isLeaf⟩

end Search

/-- The normalized name of the node at a path: that of the segment with which the first
declaration through the path spells its last field. -/
def nameIn (front : Option String) (declarations : List Declaration) (path : List String) :
    Option String :=
  (declarations.find? fun declaration => path.isPrefixOf (fieldsIn front declaration)).bind
    fun declaration =>
      ((segmentsIn front declaration)[path.length - 1]?).map (Name.normalize true)

namespace Builder

variable {front : Option String} {placed rest : List Declaration} {declaration : Declaration}
  {builder builderAfter : Builder} {claim : Claim} {path : List String}

/-- The next declaration names what its claim opens. -/
theorem Represents.nameIn_eq (represents : Represents front placed builder)
    (taken : claim.Of front declaration) (opens : claim.Opens [] builder.roots path) :
    nameIn front (placed ++ declaration :: rest) path = claim.nameAt path := by
  have noneBefore : placed.find? (fun earlier => path.isPrefixOf (fieldsIn front earlier)) =
      none := by
    refine List.find?_eq_none.mpr fun earlier isPlaced => ?_
    obtain ⟨leaf, member, samePath⟩ := represents.exists_leaf isPlaced
    rw [List.isPrefixOf_iff_prefix, ← samePath]
    exact opens.noneBelow leaf member
  have isThrough : path.isPrefixOf (fieldsIn front declaration) = true := by
    rw [List.isPrefixOf_iff_prefix, ← taken.fields_eq]
    exact opens.inside
  have sameSegments : segmentsIn front declaration = claim.segments := taken.segments.symm
  rw [nameIn, List.find?_append, noneBefore, Option.none_or, List.find?_cons, isThrough,
    Option.bind_some, sameSegments, Claim.nameAt]

/-- Each declaration keeps the normalized names of the paths. -/
theorem areSpelled_of_add (represents : Represents front placed builder)
    (spelled : AreSpelled (nameIn front (placed ++ declaration :: rest)) [] builder.roots)
    (added : builder.add front declaration = .ok builderAfter) :
    AreSpelled (nameIn front (placed ++ declaration :: rest)) [] builderAfter.roots := by
  obtain ⟨claim, types, taken, placement⟩ := represents.exists_placement added
  exact placement.areSpelled taken.zip.2 (List.nil_append _).symm rfl represents.wellPlaced
    (fun path opens => represents.nameIn_eq taken opens) spelled

end Builder

namespace Forest

variable {declarations : List Declaration} {front : Option String} {forest : Forest}
  {declaration : Declaration}

theorem areSpelled_of_build (built : build declarations front = .ok forest) :
    AreSpelled (nameIn (front.bind normalizePrefix?) declarations) [] forest.roots := by
  apply build_induction built
  · trivial
  · rintro placed declaration rest builder builderAfter rfl represents spelled added
    exact Builder.areSpelled_of_add represents spelled added

theorem areCharted_of_build (built : build declarations front = .ok forest) :
    AreCharted (nameIn (front.bind normalizePrefix?) declarations)
      (openedAt (front.bind normalizePrefix?) declarations) declarations.length []
      forest.roots := by
  refine ⟨wellPlaced_of_build built, areInOrder_of_build built, areSpelled_of_build built, ?_⟩
  intro path _ isOpened
  have isDeclared := List.mem_map_of_mem (f := leafIn (front.bind normalizePrefix?))
    (List.getElem_mem isOpened)
  exact ⟨_, (leaves_perm_of_build built).mem_iff.mpr isDeclared, prefix_of_openedAt isOpened⟩

/-- The normalized names of a declaration lead to its variable. -/
def Reaches (front : Option String) (forest : Forest) (declaration : Declaration) : Prop :=
  ∃ node leaf, forest.follow? ((segmentsIn front declaration).map (Name.normalize true)) =
    some node ∧ node.leaf? = some leaf ∧ leaf.envName = declaration.name

/-- Variables are told apart by the names that they were declared with. -/
theorem eq_leafIn_of_envName (built : build declarations front = .ok forest)
    (member : declaration ∈ declarations) {leaf : Leaf} (isLeaf : leaf ∈ forest.leaves)
    (sameName : leaf.envName = declaration.name) :
    leaf = leafIn (front.bind normalizePrefix?) declaration := by
  have permutation := leaves_perm_of_build built
  have isDeclared := permutation.mem_iff.mpr
    (List.mem_map_of_mem (f := leafIn (front.bind normalizePrefix?)) member)
  refine List.inj_on_of_nodup_map (constNames_nodup_of_build built) isLeaf isDeclared ?_
  obtain ⟨other, -, rfl⟩ := List.mem_map.mp (permutation.mem_iff.mp isLeaf)
  have sameFields : fieldsIn (front.bind normalizePrefix?) other =
      fieldsIn (front.bind normalizePrefix?) declaration := by
    rw [fieldsIn, segmentsIn, show other.name = declaration.name from sameName]
    rfl
  rw [leafIn, leafIn, sameFields]

/-- A variable is reached exactly when each of its segments leads on. -/
theorem reaches_iff_leadOn (built : build declarations front = .ok forest)
    (member : declaration ∈ declarations) :
    forest.Reaches (front.bind normalizePrefix?) declaration ↔
      LeadOn (nameIn (front.bind normalizePrefix?) declarations)
        (openedAt (front.bind normalizePrefix?) declarations) []
        (segmentsIn (front.bind normalizePrefix?) declaration) := by
  have isLeaf := (leaves_perm_of_build built).mem_iff.mpr
    (List.mem_map_of_mem (f := leafIn (front.bind normalizePrefix?)) member)
  have nonempty : segmentsIn (front.bind normalizePrefix?) declaration ≠ [] := segmentsOf_ne_nil _
  have path : (leafIn (front.bind normalizePrefix?) declaration).path =
      [] ++ (segmentsIn (front.bind normalizePrefix?) declaration).map Name.field := rfl
  refine Iff.trans ?_ ((areCharted_of_build built).reach?_iff (fun _ => List.findIdx_le_length)
    nonempty isLeaf path)
  rw [Reaches, follow?_eq_reach?]
  constructor
  · intro ⟨node, entry, reached, stands, sameName⟩
    have inForest := mem_leavesOf_of_reach? reached stands
    exact ⟨node, reached, eq_leafIn_of_envName built member inForest sameName ▸ stands⟩
  · intro ⟨node, reached, stands⟩
    exact ⟨node, _, reached, stands, rfl⟩

end Forest

section Spelling

variable {front : Option String} {declarations : List Declaration} {declaration : Declaration}
  {above : List String} {field name : String}

/-- Whether two segments have the same field is seen at their normalized names. -/
def NamesFollowFields (front : Option String) (declarations : List Declaration) : Prop :=
  ∀ first ∈ declarations, ∀ second ∈ declarations, ∀ one ∈ segmentsIn front first,
    ∀ other ∈ segmentsIn front second,
      Name.field one = Name.field other ↔ Name.normalize true one = Name.normalize true other

/-- The first declaration through a path spells its last field with a segment of this field. -/
theorem exists_spelling (isFirst : declarations.find? (fun declaration =>
      (above ++ [field]).isPrefixOf (fieldsIn front declaration)) = some declaration) :
    ∃ segment ∈ segmentsIn front declaration, Name.field segment = field ∧
      nameIn front declarations (above ++ [field]) = some (Name.normalize true segment) := by
  have isThrough := List.find?_some isFirst
  obtain ⟨rest, whole⟩ := List.isPrefixOf_iff_prefix.mp isThrough
  have atField : ((segmentsIn front declaration).map Name.field)[above.length]? = some field := by
    rw [← fieldsIn, ← whole]
    simp
  rw [List.getElem?_map] at atField
  obtain ⟨segment, isSegment, sameField⟩ := Option.map_eq_some_iff.mp atField
  refine ⟨segment, List.mem_of_getElem? isSegment, sameField, ?_⟩
  rw [nameIn, isFirst, Option.bind_some, List.length_append, List.length_singleton,
    Nat.add_sub_cancel, isSegment, Option.map_some]

/-- A node is named by a segment that has its field. -/
theorem exists_segment_of_nameIn
    (named : nameIn front declarations (above ++ [field]) = some name) :
    ∃ first ∈ declarations, ∃ segment ∈ segmentsIn front first,
      Name.field segment = field ∧ Name.normalize true segment = name := by
  obtain ⟨first, isFirst, -⟩ := Option.bind_eq_some_iff.mp named
  obtain ⟨segment, isSegment, sameField, spelled⟩ := exists_spelling isFirst
  exact ⟨first, List.mem_of_find?_eq_some isFirst, segment, isSegment, sameField,
    Option.some_inj.mp (spelled.symm.trans named)⟩

/-- If names follow fields, the segments of a declaration lead to the fields of its path. -/
theorem NamesFollowFields.leadsTo (follow : NamesFollowFields front declarations)
    (member : declaration ∈ declarations) {before after : List String} {segment : String}
    (segments : segmentsIn front declaration = before ++ segment :: after) :
    LeadsTo (nameIn front declarations) (openedAt front declarations) (before.map Name.field)
      (Name.normalize true segment) (Name.field segment) := by
  have isSegment : segment ∈ segmentsIn front declaration := by simp [segments]
  constructor
  · have isThrough : (before.map Name.field ++ [Name.field segment]).isPrefixOf
        (fieldsIn front declaration) = true := by
      rw [List.isPrefixOf_iff_prefix, fieldsIn, segments]
      exact ⟨after.map Name.field, by simp⟩
    have isFound : (declarations.find? fun declaration =>
        (before.map Name.field ++ [Name.field segment]).isPrefixOf
          (fieldsIn front declaration)).isSome :=
      List.find?_isSome.mpr ⟨declaration, member, isThrough⟩
    obtain ⟨first, isFirst⟩ := Option.isSome_iff_exists.mp isFound
    obtain ⟨spelling, isSpelling, sameField, spelled⟩ := exists_spelling isFirst
    rw [spelled, (follow first (List.mem_of_find?_eq_some isFirst) declaration member spelling
      isSpelling segment isSegment).mp sameField]
  · intro other earlier sameName
    obtain ⟨first, isDeclared, spelling, isSpelling, rfl, spelled⟩ :=
      exists_segment_of_nameIn sameName
    have sameField := (follow first isDeclared declaration member spelling isSpelling segment
      isSegment).mpr spelled
    rw [sameField] at earlier
    exact absurd earlier (Nat.lt_irrefl _)

/-- If names follow fields, all segments of a declaration lead on. -/
theorem NamesFollowFields.leadOn (follow : NamesFollowFields front declarations)
    (member : declaration ∈ declarations) {before after : List String}
    (segments : segmentsIn front declaration = before ++ after) :
    LeadOn (nameIn front declarations) (openedAt front declarations) (before.map Name.field)
      after := by
  induction after generalizing before with
  | nil => trivial
  | cons segment rest induction =>
      have parts : segmentsIn front declaration = (before ++ [segment]) ++ rest := by
        simp [segments]
      have goesOn := induction parts
      rw [List.map_append, List.map_singleton] at goesOn
      exact ⟨follow.leadsTo member segments, goesOn⟩

end Spelling

namespace Forest

variable {declarations : List Declaration} {front : Option String} {forest : Forest}
  {declaration : Declaration}

/-- A variable is reached by its normalized names if and only if each of them leads on, and every
variable is reached if names follow fields. -/
theorem reaches_iff (built : build declarations front = .ok forest)
    (member : declaration ∈ declarations) :
    (forest.Reaches (front.bind normalizePrefix?) declaration ↔
      LeadOn (nameIn (front.bind normalizePrefix?) declarations)
        (openedAt (front.bind normalizePrefix?) declarations) []
        (segmentsIn (front.bind normalizePrefix?) declaration)) ∧
      (NamesFollowFields (front.bind normalizePrefix?) declarations →
        forest.Reaches (front.bind normalizePrefix?) declaration) := by
  have reached := reaches_iff_leadOn built member
  refine ⟨reached, fun follow => reached.mpr ?_⟩
  exact follow.leadOn member (List.nil_append _).symm

/-- Two variables of one normalized name, and a group that is spelled in two ways. -/
def respelled : List Declaration :=
  [⟨"P_A_1", "x", .string "x", 1⟩, ⟨"P_A1", "y", .string "y", 2⟩,
    ⟨"P_maxSize__A", "1", .int 1, 3⟩, ⟨"P_MAX_SIZE__B", "2", .int 2, 4⟩]

/-- The configuration of `respelled`, without its common front text `P`. -/
def respelledForest : Forest :=
  ⟨[.leaf "A1" "a_1" ⟨"P_A_1", "A_1_ENV_NAME", ["a_1"], .string "x", 1⟩,
    .leaf "A1" "a1" ⟨"P_A1", "A1_ENV_NAME", ["a1"], .string "y", 2⟩,
    .group "Maxsize" "max_size" "MaxSize"
      [.leaf "A" "a" ⟨"P_maxSize__A", "MAX_SIZE_A_ENV_NAME", ["max_size", "a"], .int 1, 3⟩,
       .leaf "B" "b" ⟨"P_MAX_SIZE__B", "MAX_SIZE_B_ENV_NAME", ["max_size", "b"], .int 2, 4⟩]]⟩

theorem build_respelled : build respelled (some "P") = .ok respelledForest := rfl

/-- Names do not follow fields in `respelled`, so each of its variables has to be looked at by
itself; in `interleaved` they do, and all variables are reached. -/
theorem reaches_iff_respelled :
    build respelled (some "P") = .ok respelledForest ∧
      (⟨"P_maxSize__A", "1", .int 1, 3⟩ : Declaration) ∈ respelled ∧
      (respelledForest.Reaches (some "P_") ⟨"P_maxSize__A", "1", .int 1, 3⟩ ↔
        LeadOn (nameIn (some "P_") respelled) (openedAt (some "P_") respelled) []
          (segmentsIn (some "P_") ⟨"P_maxSize__A", "1", .int 1, 3⟩)) ∧
      ¬ NamesFollowFields (some "P_") respelled ∧
      build interleaved (some "P") = .ok interleavedForest ∧
      NamesFollowFields (some "P_") interleaved ∧
      ∀ declaration ∈ interleaved, interleavedForest.Reaches (some "P_") declaration := by
  have member : (⟨"P_maxSize__A", "1", .int 1, 3⟩ : Declaration) ∈ respelled := by
    simp [respelled]
  have builtInterleaved : build interleaved (some "P") = .ok interleavedForest := rfl
  have respells : ¬ NamesFollowFields (some "P_") respelled := by
    unfold NamesFollowFields
    decide +kernel
  have follow : NamesFollowFields (some "P_") interleaved := by
    unfold NamesFollowFields
    decide +kernel
  refine ⟨build_respelled, member, (reaches_iff build_respelled member).1, respells,
    builtInterleaved, follow, ?_⟩
  intro declaration isDeclared
  exact (reaches_iff builtInterleaved isDeclared).2 follow

/-- The second of two variables of one normalized name is not reached, and neither is one in a
group that was first spelled in another way. -/
theorem not_reaches_respelled :
    Declaration.readTyped "P_A_1=x\nP_A1=y\nP_maxSize__A=1\nP_MAX_SIZE__B=2\n" = .ok respelled ∧
      build respelled (some "P") = .ok respelledForest ∧
      (⟨"P_A1", "y", .string "y", 2⟩ : Declaration) ∈ respelled ∧
      ¬ respelledForest.Reaches (some "P_") ⟨"P_A1", "y", .string "y", 2⟩ ∧
      (⟨"P_MAX_SIZE__B", "2", .int 2, 4⟩ : Declaration) ∈ respelled ∧
      ¬ respelledForest.Reaches (some "P_") ⟨"P_MAX_SIZE__B", "2", .int 2, 4⟩ := by
  refine ⟨by decide +kernel, build_respelled, by simp [respelled], ?_, by simp [respelled], ?_⟩
  · rintro ⟨node, entry, reached, stands, sameName⟩
    -- the search ends at the first of the two variables
    have isOther : respelledForest.follow? ((segmentsIn (some "P_")
        ⟨"P_A1", "y", .string "y", 2⟩).map (Name.normalize true)) =
          some (.leaf "A1" "a_1" ⟨"P_A_1", "A_1_ENV_NAME", ["a_1"], .string "x", 1⟩) := rfl
    cases isOther.symm.trans reached
    cases stands
    exact absurd sameName (by decide)
  · rintro ⟨node, entry, reached, -, -⟩
    -- no group is found, as that of `maxSize` is not named as `MAX_SIZE` would be
    have isAbsent : respelledForest.follow? ((segmentsIn (some "P_")
        ⟨"P_MAX_SIZE__B", "2", .int 2, 4⟩).map (Name.normalize true)) = none := rfl
    cases isAbsent.symm.trans reached

end Forest

end TypedEnv.Config
