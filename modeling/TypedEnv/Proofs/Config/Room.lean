import TypedEnv.Proofs.Config.Placement
import TypedEnv.Proofs.Name.Segment

/-!
# Room for one variable

A variable can be placed exactly when a forest has room for it: no variable
lies on its path or below it, and every section that has to be opened gets a
type that no other section has.  `Room` says this with the paths of the
variables alone.  The proof follows `place`, with one equivalence for each of
its branches: the last field, a group that is entered, a group that is opened.
-/

namespace TypedEnv.Config

open Node

/-- A path that goes on to another one and is not all of it. -/
def IsAbove (first second : List String) : Prop :=
  first <+: second ∧ first ≠ second

section Paths

variable {above path longer rest : List String} {field other : String}

theorem isAbove_append (nonempty : rest ≠ []) : IsAbove above (above ++ rest) := by
  refine ⟨List.prefix_append above rest, fun same => nonempty ?_⟩
  simpa using same

theorem IsAbove.exists_append (isAbove : IsAbove above path) :
    ∃ rest, rest ≠ [] ∧ path = above ++ rest := by
  obtain ⟨⟨rest, rfl⟩, different⟩ := isAbove
  refine ⟨rest, fun isNil => different ?_, rfl⟩
  rw [isNil, List.append_nil]

theorem IsAbove.lengthen (isAbove : IsAbove above path) (inside : path <+: longer) :
    IsAbove above longer := by
  obtain ⟨rest, nonempty, rfl⟩ := isAbove.exists_append
  obtain ⟨others, rfl⟩ := inside
  rw [List.append_assoc]
  exact isAbove_append (by simp [nonempty])

theorem IsAbove.widen (inside : above <+: path) (isAbove : IsAbove path longer) :
    IsAbove above longer := by
  obtain ⟨others, rfl⟩ := inside
  obtain ⟨rest, nonempty, rfl⟩ := isAbove.exists_append
  rw [List.append_assoc]
  exact isAbove_append (by simp [nonempty])

/-- A path goes on with one field only. -/
theorem next_field_eq (first : above ++ [field] <+: path) (second : above ++ [other] <+: path) :
    field = other := by
  obtain ⟨rest, rfl⟩ := first
  obtain ⟨others, same⟩ := second
  rw [List.append_assoc, List.append_assoc, List.append_cancel_left_eq] at same
  exact (List.cons.inj same).1.symm

/-- Between a path and one of its continuations, the next step comes first. -/
theorem IsAbove.step (isAbove : IsAbove above path) (inside : path <+: above ++ field :: rest) :
    path = above ++ [field] ∨ IsAbove (above ++ [field]) path := by
  obtain ⟨steps, nonempty, rfl⟩ := isAbove.exists_append
  obtain ⟨first, others, rfl⟩ := List.exists_cons_of_ne_nil nonempty
  have stepInside := (List.prefix_append_right_inj above).mp inside
  obtain ⟨rfl, -⟩ := List.cons_prefix_cons.mp stepInside
  cases others with
  | nil => exact .inl rfl
  | cons second later =>
      rw [List.append_cons]
      exact .inr (isAbove_append (by simp))

end Paths

mutual

theorem prefix_of_mem_leaves {above : List String} {node : Node} {leaf : Leaf}
    (placed : node.WellPlaced above) (member : leaf ∈ node.leaves) :
    above ++ [node.field] <+: leaf.path := by
  cases node with
  | leaf name field entry =>
      obtain rfl := List.mem_singleton.mp member
      exact placed ▸ List.prefix_rfl
  | group name field typeName children =>
      obtain ⟨child, -, inside⟩ := exists_node_of_mem_leavesOf placed.2 member
      exact (List.prefix_append _ _).trans inside

/-- The path of a variable goes on with the field of a neighbour. -/
theorem exists_node_of_mem_leavesOf {above : List String} {nodes : List Node} {leaf : Leaf}
    (placed : WellPlacedList above nodes) (member : leaf ∈ leavesOf nodes) :
    ∃ node ∈ nodes, above ++ [node.field] <+: leaf.path := by
  cases nodes with
  | nil => cases member
  | cons node rest =>
      obtain ⟨-, nodePlaced, restPlaced⟩ := placed
      rcases List.mem_append.mp member with inNode | inRest
      · exact ⟨node, List.mem_cons_self, prefix_of_mem_leaves nodePlaced inNode⟩
      · obtain ⟨other, isNode, inside⟩ := exists_node_of_mem_leavesOf restPlaced inRest
        exact ⟨other, List.mem_cons_of_mem _ isNode, inside⟩

end

/-- There is a variable at or below every node. -/
theorem exists_mem_leaves {above : List String} {node : Node} (placed : node.WellPlaced above) :
    ∃ leaf, leaf ∈ node.leaves := by
  cases node with
  | leaf name field entry => exact ⟨entry, List.mem_singleton_self entry⟩
  | group name field typeName children =>
      obtain ⟨nonempty, childrenPlaced⟩ := placed
      cases children with
      | nil => exact absurd rfl nonempty
      | cons child rest =>
          obtain ⟨-, childPlaced, -⟩ := childrenPlaced
          obtain ⟨leaf, member⟩ := exists_mem_leaves childPlaced
          exact ⟨leaf, List.mem_append_left _ member⟩

section Room

variable {above : List String} {nodes before after children : List Node} {leaf : Leaf}
  {name field typeName : String}

/-- A field is free when no variable is at or below it. -/
theorem forall_field_ne_iff (placed : WellPlacedList above nodes) :
    (∀ node ∈ nodes, node.field ≠ field) ↔
      ∀ leaf ∈ leavesOf nodes, ¬ above ++ [field] <+: leaf.path := by
  constructor
  · intro fresh leaf member inside
    obtain ⟨node, isNode, nodeInside⟩ := exists_node_of_mem_leavesOf placed member
    exact fresh node isNode (next_field_eq nodeInside inside)
  · intro free node isNode sameField
    obtain ⟨first, others, rfl⟩ := List.append_of_mem isNode
    obtain ⟨-, ⟨-, nodePlaced, -⟩, -⟩ := wellPlacedList_append.mp placed
    obtain ⟨leaf, inNode⟩ := exists_mem_leaves nodePlaced
    have inNodes : leaf ∈ leavesOf (first ++ node :: others) := by
      simp [leavesOf, inNode]
    exact free leaf inNodes (sameField ▸ prefix_of_mem_leaves nodePlaced inNode)

/-- The variables below a group are its own. -/
theorem mem_leavesOf_group
    (placed : WellPlacedList above (before ++ .group name field typeName children :: after))
    (apart : ∀ node ∈ before ++ after, node.field ≠ field) :
    leaf ∈ leavesOf children ↔
      leaf ∈ leavesOf (before ++ .group name field typeName children :: after) ∧
        above ++ [field] <+: leaf.path := by
  obtain ⟨beforePlaced, ⟨-, groupPlaced, afterPlaced⟩, -⟩ := wellPlacedList_append.mp placed
  constructor
  · intro member
    exact ⟨by simp [leavesOf, Node.leaves, member], prefix_of_mem_leaves groupPlaced member⟩
  · intro below
    obtain ⟨member, inside⟩ := below
    simp only [leavesOf_append, leavesOf, Node.leaves, List.mem_append] at member
    rcases member with inBefore | inChildren | inAfter
    · obtain ⟨node, isNode, nodeInside⟩ := exists_node_of_mem_leavesOf beforePlaced inBefore
      exact absurd (next_field_eq nodeInside inside) (apart node (List.mem_append_left _ isNode))
    · exact inChildren
    · obtain ⟨node, isNode, nodeInside⟩ := exists_node_of_mem_leavesOf afterPlaced inAfter
      exact absurd (next_field_eq nodeInside inside) (apart node (List.mem_append_right _ isNode))

/-- What the segments and fields of a claim have to do with each other. -/
structure Claim.IsSpelled (claim : Claim) : Prop where
  ascii : ∀ segment ∈ claim.segments, ∀ c ∈ segment.toList, c.toNat < 128
  fields : claim.fields = claim.segments.map Name.field
  accepted : ∀ name ∈ claim.fields, Name.IsField name

variable {claim : Claim} {types : List (String × String)} {rest : List String}

/-- The type of a section is the one of its fields, whatever segments it is opened with. -/
theorem Claim.IsSpelled.typeName_take (spelled : claim.IsSpelled) (count : Nat) :
    Name.typeName (claim.segments.take count) = Name.typeName (claim.fields.take count) := by
  rw [spelled.fields, ← List.map_take]
  refine (Name.typeName_map_field fun segment member => ?_).symm
  exact spelled.ascii segment (List.mem_of_mem_take member)

/-- A section that is opened below the fields `above` gets the type of its own path. -/
theorem Claim.IsSpelled.typeName_opened (spelled : claim.IsSpelled) {passed : Nat}
    (remaining : claim.fields = above ++ field :: rest) (depth : passed = above.length) :
    Name.typeName (claim.segments.take (passed + 1)) = Name.typeName (above ++ [field]) := by
  have taken : (above ++ field :: rest).take (passed + 1) = above ++ [field] := by
    rw [List.append_cons, List.take_left' (by simp [depth])]
  rw [spelled.typeName_take, remaining, taken]

/-- Below the fields `above` there is room for a variable: it is not on the path of another one
nor the other on its path, and the types of the sections that it opens are not claimed yet. -/
structure Room (claim : Claim) (above : List String) (types : List (String × String))
    (nodes : List Node) : Prop where
  apart : ∀ leaf ∈ leavesOf nodes, ¬ leaf.path <+: claim.fields ∧ ¬ claim.fields <+: leaf.path
  unclaimed : ∀ path, IsAbove above path → IsAbove path claim.fields →
    (∀ leaf ∈ leavesOf nodes, ¬ path <+: leaf.path) → Name.typeName path ∉ types.map Prod.fst

/-- A variable on the path of a claim, or the other way round, lies below the next field. -/
theorem next_prefix_of_comparable (placed : WellPlacedList above nodes)
    (remaining : claim.fields = above ++ field :: rest) (member : leaf ∈ leavesOf nodes)
    (comparable : leaf.path <+: claim.fields ∨ claim.fields <+: leaf.path) :
    above ++ [field] <+: leaf.path := by
  have next : above ++ [field] <+: claim.fields := ⟨rest, by rw [remaining, ← List.append_cons]⟩
  obtain ⟨node, -, inside⟩ := exists_node_of_mem_leavesOf placed member
  rcases comparable with onPath | below
  · rwa [next_field_eq next (inside.trans onPath)]
  · exact next.trans below

/-- The last field of a path needs no section, only a free place. -/
theorem room_last (placed : WellPlacedList above nodes)
    (remaining : claim.fields = above ++ [field]) :
    Room claim above types nodes ↔ ∀ node ∈ nodes, node.field ≠ field := by
  rw [forall_field_ne_iff placed]
  constructor
  · intro room leaf member
    rw [← remaining]
    exact (room.apart leaf member).2
  · intro free
    refine ⟨fun leaf member => not_or.mp fun comparable => ?_, ?_⟩
    · exact free leaf member (next_prefix_of_comparable placed remaining member comparable)
    · intro sectionPath isAbove notLast
      rcases isAbove.step (remaining ▸ notLast.1) with same | beyond
      · exact absurd (same.trans remaining.symm) notLast.2
      · have long := (beyond.lengthen notLast.1).exists_append
        simp [remaining] at long

/-- A claim that enters a group needs room there and nowhere else. -/
theorem room_enter
    (placed : WellPlacedList above (before ++ .group name field typeName children :: after))
    (apart : ∀ node ∈ before ++ after, node.field ≠ field)
    (remaining : claim.fields = above ++ field :: rest) :
    Room claim above types (before ++ .group name field typeName children :: after) ↔
      Room claim (above ++ [field]) types children := by
  have inGroup : ∀ leaf, leaf ∈ leavesOf children ↔
      leaf ∈ leavesOf (before ++ .group name field typeName children :: after) ∧
        above ++ [field] <+: leaf.path := fun _ => mem_leavesOf_group placed apart
  constructor
  · intro room
    refine ⟨fun leaf member => room.apart leaf ((inGroup leaf).mp member).1, ?_⟩
    intro sectionPath isAbove inside noneBelow
    have isAboveFirst := isAbove.widen (List.prefix_append above [field])
    refine room.unclaimed sectionPath isAboveFirst inside fun leaf member below => ?_
    exact noneBelow leaf ((inGroup leaf).mpr ⟨member, isAbove.1.trans below⟩) below
  · intro room
    refine ⟨fun leaf member => not_or.mp fun comparable => ?_, ?_⟩
    · have below := next_prefix_of_comparable placed remaining member comparable
      have disjoint := room.apart leaf ((inGroup leaf).mpr ⟨member, below⟩)
      exact comparable.elim disjoint.1 disjoint.2
    · intro sectionPath isAbove inside noneBelow
      rcases isAbove.step (remaining ▸ inside.1) with rfl | beyond
      · -- the group itself is the section, and there is a variable in it
        have isFree := (forall_field_ne_iff placed).mpr noneBelow
        exact absurd rfl (isFree (.group name field typeName children) (by simp))
      · exact room.unclaimed sectionPath beyond inside fun leaf member =>
          noneBelow leaf ((inGroup leaf).mp member).1

/-- A claim that opens a group needs a type for it; inside there is nothing in the way. -/
theorem room_create (owner : String) (spelled : claim.IsSpelled)
    (placed : WellPlacedList above nodes) (fresh : ∀ node ∈ nodes, node.field ≠ field)
    (remaining : claim.fields = above ++ field :: rest) (more : rest ≠ []) :
    Room claim above types nodes ↔
      Name.typeName (above ++ [field]) ∉ types.map Prod.fst ∧
        Room claim (above ++ [field]) ((Name.typeName (above ++ [field]), owner) :: types) [] := by
  have free := (forall_field_ne_iff placed).mp fresh
  have inside : IsAbove (above ++ [field]) claim.fields := by
    have goesOn : claim.fields = above ++ [field] ++ rest := by rw [remaining, ← List.append_cons]
    exact goesOn ▸ isAbove_append more
  constructor
  · intro room
    refine ⟨room.unclaimed _ (isAbove_append (by simp)) inside free, ?_⟩
    refine ⟨fun leaf member => absurd member List.not_mem_nil, ?_⟩
    intro sectionPath isAbove sectionInside _
    have accepted : ∀ name ∈ sectionPath, Name.IsField name := fun name member =>
      spelled.accepted name (sectionInside.1.subset member)
    have longer := Name.typeName_ne_of_inside accepted isAbove.1 isAbove.2
    have isAboveFirst := isAbove.widen (List.prefix_append above [field])
    have notBefore := room.unclaimed sectionPath isAboveFirst sectionInside fun leaf member below =>
      free leaf member (isAbove.1.trans below)
    rw [List.map_cons, List.mem_cons, not_or]
    exact ⟨longer.symm, notBefore⟩
  · intro ⟨unclaimed, room⟩
    refine ⟨fun leaf member => not_or.mp fun comparable => ?_, ?_⟩
    · exact free leaf member (next_prefix_of_comparable placed remaining member comparable)
    · intro sectionPath isAbove sectionInside _
      rcases isAbove.step (remaining ▸ sectionInside.1) with rfl | beyond
      · exact unclaimed
      · have notAfter := room.unclaimed sectionPath beyond sectionInside
          fun leaf member => absurd member List.not_mem_nil
        rw [List.map_cons, List.mem_cons, not_or] at notAfter
        exact notAfter.2

/-- Nothing can be placed below a variable. -/
theorem not_room_below_leaf (placed : WellPlacedList above nodes) {entry : Leaf}
    (member : .leaf name field entry ∈ nodes) (remaining : claim.fields = above ++ field :: rest) :
    ¬ Room claim above types nodes := by
  obtain ⟨first, others, rfl⟩ := List.append_of_mem member
  obtain ⟨-, ⟨-, atField, -⟩, -⟩ := wellPlacedList_append.mp placed
  intro room
  have isLeaf : entry ∈ leavesOf (first ++ .leaf name field entry :: others) := by
    simp [leavesOf, Node.leaves]
  refine (room.apart entry isLeaf).1 ⟨rest, ?_⟩
  rw [remaining, show entry.path = above ++ [field] from atField, ← List.append_cons]

/-- A claim can be placed exactly when there is room for it. -/
theorem exists_place_iff (spelled : claim.IsSpelled) {passed : Nat}
    {segments : List (String × String)} (nonempty : segments ≠ [])
    (remaining : claim.fields = above ++ segments.map Prod.snd) (depth : passed = above.length)
    (placed : WellPlacedList above nodes) :
    (∃ result, place claim types passed nodes segments = .ok result) ↔
      Room claim above types nodes := by
  induction segments generalizing above passed types nodes with
  | nil => exact absurd rfl nonempty
  | cons segment rest induction =>
      obtain ⟨segment, field⟩ := segment
      cases rest with
      | nil =>
          rw [room_last placed remaining, ← find?_field_eq_none, place]
          split
          · next found => simp [found]
          · next found => simp [found]
          · next missing => simp [missing]
      | cons next rest =>
          have nextRemaining :
              claim.fields = above ++ [field] ++ (next :: rest).map Prod.snd := by
            rw [remaining, List.map_cons, ← List.append_cons]
          have nextDepth : passed + 1 = (above ++ [field]).length := by simp [depth]
          rw [place]
          split
          · next name other entry found =>
              obtain ⟨same, before, after, rfl, -⟩ := split_of_find?_field placed found
              obtain rfl : other = field := same
              have isNode :
                  Node.leaf name other entry ∈ before ++ .leaf name other entry :: after :=
                List.mem_append_right _ List.mem_cons_self
              have blocked : ¬ Room claim above types _ :=
                not_room_below_leaf placed isNode remaining
              simp [blocked]
          · next name other typeName children found =>
              obtain ⟨same, before, after, rfl, apart⟩ := split_of_find?_field placed found
              obtain rfl : other = field := same
              obtain ⟨-, ⟨-, ⟨-, childrenPlaced⟩, -⟩, -⟩ := wellPlacedList_append.mp placed
              rw [room_enter placed apart remaining,
                ← induction (by simp) nextRemaining nextDepth childrenPlaced]
              exact exists_bind_pure_eq_ok_iff
          · next missing =>
              have nothingBelow : WellPlacedList (above ++ [field]) [] := trivial
              dsimp only
              rw [spelled.typeName_opened remaining depth,
                room_create (String.intercalate "." (claim.fields.take (passed + 1))) spelled
                  placed (find?_field_eq_none.mp missing) remaining (by simp),
                ← lookup_eq_none_iff]
              split
              · next claimed => simp [claimed]
              · next unclaimed =>
                  rw [← induction (by simp) nextRemaining nextDepth nothingBelow]
                  exact exists_bind_pure_eq_ok_iff.trans (by simp [unclaimed])

end Room

end TypedEnv.Config
