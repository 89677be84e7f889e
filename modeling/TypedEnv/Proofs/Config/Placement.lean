import TypedEnv.Config.Build
import TypedEnv.Proofs.Outcome

/-!
# Placing one variable

`Node.WellPlaced` says what a forest has to look like: the path of every
variable names the fields above it, neighbours have different fields, and no
group is empty.  `Placement` describes one insertion without the search for a
group, and every successful `place` in a well placed forest is one.  Its
consequences are what a single declaration changes.
-/

namespace TypedEnv.Config

namespace Node

mutual

/-- The types of the groups at and below a node, depth first. -/
def typeNames : Node → List String
  | .leaf _ _ _ => []
  | .group _ _ typeName children => typeName :: typeNamesOf children

/-- The types of the groups at and below some nodes. -/
def typeNamesOf : List Node → List String
  | [] => []
  | node :: rest => node.typeNames ++ typeNamesOf rest

end

mutual

/-- A node stands where it belongs below the fields `above`: a variable knows its path, and a
group has children that stand where they belong. -/
def WellPlaced (above : List String) : Node → Prop
  | .leaf _ field entry => entry.path = above ++ [field]
  | .group _ field _ children => children ≠ [] ∧ WellPlacedList (above ++ [field]) children

/-- Neighbours stand where they belong and have different fields. -/
def WellPlacedList (above : List String) : List Node → Prop
  | [] => True
  | node :: rest =>
      (∀ other ∈ rest, other.field ≠ node.field) ∧
        node.WellPlaced above ∧ WellPlacedList above rest

end

@[simp] theorem leavesOf_append (first second : List Node) :
    leavesOf (first ++ second) = leavesOf first ++ leavesOf second := by
  induction first with
  | nil => rfl
  | cons node rest induction => simp [leavesOf, induction]

@[simp] theorem typeNamesOf_append (first second : List Node) :
    typeNamesOf (first ++ second) = typeNamesOf first ++ typeNamesOf second := by
  induction first with
  | nil => rfl
  | cons node rest induction => simp [typeNamesOf, induction]

/-- Two lists of neighbours stand side by side when no field occurs in both. -/
theorem wellPlacedList_append {above : List String} {first second : List Node} :
    WellPlacedList above (first ++ second) ↔
      WellPlacedList above first ∧ WellPlacedList above second ∧
        ∀ node ∈ first, ∀ other ∈ second, other.field ≠ node.field := by
  induction first with
  | nil => simp [WellPlacedList]
  | cons node rest induction =>
      simp only [List.cons_append, WellPlacedList, induction, List.mem_append, List.mem_cons]
      constructor
      · rintro ⟨fresh, placed, restPlaced, secondPlaced, apart⟩
        refine ⟨⟨fun other member => fresh other (.inl member), placed, restPlaced⟩,
          secondPlaced, ?_⟩
        rintro left (rfl | member) right rightMember
        · exact fresh right (.inr rightMember)
        · exact apart left member right rightMember
      · rintro ⟨⟨fresh, placed, restPlaced⟩, secondPlaced, apart⟩
        refine ⟨?_, placed, restPlaced, secondPlaced,
          fun left member => apart left (.inr member)⟩
        rintro other (member | member)
        · exact fresh other member
        · exact apart node (.inl rfl) other member

end Node

open Node

/-- One insertion: the variable of a claim goes to the end of the innermost group, groups that
are there are entered, and missing ones are opened at the end of their neighbours.  The indices
are those of `place`, with the nodes and the types before and after. -/
inductive Placement (claim : Claim) : Nat → List (String × String) → List (String × String) →
    List Node → List Node → List (String × String) → Prop where
  | leaf {passed : Nat} {types : List (String × String)} {nodes : List Node}
      {segment field : String}
      (fresh : ∀ node ∈ nodes, node.field ≠ field) :
      Placement claim passed types [(segment, field)] nodes
        (nodes ++ [.leaf (Name.normalize true segment) field claim.leaf]) types
  | enter {passed : Nat} {types typesAfter : List (String × String)}
      {before after children childrenAfter : List Node} {name field typeName segment : String}
      {next : String × String} {rest : List (String × String)}
      (apart : ∀ node ∈ before ++ after, node.field ≠ field)
      (inner : Placement claim (passed + 1) types (next :: rest) children childrenAfter
        typesAfter) :
      Placement claim passed types ((segment, field) :: next :: rest)
        (before ++ .group name field typeName children :: after)
        (before ++ .group name field typeName childrenAfter :: after) typesAfter
  | create {passed : Nat} {types typesAfter : List (String × String)}
      {nodes children : List Node} {typeName path segment field : String}
      {next : String × String} {rest : List (String × String)}
      (fresh : ∀ node ∈ nodes, node.field ≠ field)
      (named : typeName = Name.typeName (claim.segments.take (passed + 1)))
      (unclaimed : typeName ∉ types.map Prod.fst)
      (inner : Placement claim (passed + 1) ((typeName, path) :: types) (next :: rest) []
        children typesAfter) :
      Placement claim passed types ((segment, field) :: next :: rest) nodes
        (nodes ++ [.group (Name.normalize true segment) field typeName children]) typesAfter

theorem find?_field_eq_none {nodes : List Node} {field : String} :
    nodes.find? (·.field == field) = none ↔ ∀ node ∈ nodes, node.field ≠ field := by
  simp [List.find?_eq_none]

/-- In a well placed list the node for a field is the only one. -/
theorem split_of_find?_field {above : List String} {nodes : List Node} {node : Node}
    {field : String} (placed : WellPlacedList above nodes)
    (found : nodes.find? (·.field == field) = some node) :
    node.field = field ∧ ∃ before after, nodes = before ++ node :: after ∧
      ∀ other ∈ before ++ after, other.field ≠ field := by
  obtain ⟨same, before, after, rfl, earlier⟩ := List.find?_eq_some_iff_append.mp found
  have sameField : node.field = field := by simpa using same
  refine ⟨sameField, before, after, rfl, ?_⟩
  obtain ⟨-, ⟨later, -, -⟩, -⟩ := wellPlacedList_append.mp placed
  intro other member
  rcases List.mem_append.mp member with inBefore | inAfter
  · simpa using earlier other inBefore
  · simpa [sameField] using later other inAfter

/-- Nodes without a group for a field keep their children. -/
theorem replaceChildren_eq_self {nodes children : List Node} {field : String}
    (fresh : ∀ node ∈ nodes, node.field ≠ field) :
    replaceChildren field children nodes = nodes := by
  refine (List.map_congr_left fun node member => ?_).trans (List.map_id' nodes)
  cases node with
  | leaf name other entry => rfl
  | group name other typeName before =>
      have different : other ≠ field := fresh _ member
      simp [different]

/-- Changing the children of the only group with a field leaves its neighbours alone. -/
theorem replaceChildren_middle {before after children childrenAfter : List Node}
    {name field typeName : String}
    (apart : ∀ node ∈ before ++ after, node.field ≠ field) :
    replaceChildren field childrenAfter (before ++ .group name field typeName children :: after) =
      before ++ .group name field typeName childrenAfter :: after := by
  have front : replaceChildren field childrenAfter before = before :=
    replaceChildren_eq_self fun node member => apart node (List.mem_append_left _ member)
  have back : replaceChildren field childrenAfter after = after :=
    replaceChildren_eq_self fun node member => apart node (List.mem_append_right _ member)
  rw [replaceChildren, List.map_append, List.map_cons]
  change replaceChildren field childrenAfter before ++ _ ::
    replaceChildren field childrenAfter after = _
  rw [front, back]
  simp

theorem lookup_eq_none_iff {table : List (String × String)} {key : String} :
    table.lookup key = none ↔ key ∉ table.map Prod.fst := by
  induction table with
  | nil => simp
  | cons entry rest induction =>
      obtain ⟨name, value⟩ := entry
      by_cases same : key = name
      · simp [same]
      · have unequal : (key == name) = false := by simpa using same
        simp [List.lookup_cons, unequal, same, induction]

/-- A successful insertion into a well placed forest follows the rules of `Placement`. -/
theorem Placement.of_place {claim : Claim} {segments : List (String × String)}
    {above : List String} {passed : Nat} {types typesAfter : List (String × String)}
    {nodes nodesAfter : List Node}
    (nonempty : segments ≠ []) (placed : WellPlacedList above nodes)
    (success : place claim types passed nodes segments = .ok (nodesAfter, typesAfter)) :
    Placement claim passed types segments nodes nodesAfter typesAfter := by
  induction segments generalizing above passed types typesAfter nodes nodesAfter with
  | nil => exact absurd rfl nonempty
  | cons segment rest induction =>
      obtain ⟨segment, field⟩ := segment
      cases rest with
      | nil =>
          rw [place] at success
          split at success
          · cases success
          · cases success
          · next missing =>
              cases success
              exact .leaf (find?_field_eq_none.mp missing)
      | cons next rest =>
          rw [place] at success
          split at success
          · cases success
          · next name other typeName children found =>
              obtain ⟨⟨childrenAfter, typesInside⟩, inside, equality⟩ :=
                bind_eq_ok_iff.mp success
              cases equality
              obtain ⟨same, before, after, rfl, apart⟩ := split_of_find?_field placed found
              obtain rfl : other = field := same
              rw [replaceChildren_middle apart]
              obtain ⟨-, ⟨-, ⟨-, childrenPlaced⟩, -⟩, -⟩ := wellPlacedList_append.mp placed
              exact .enter apart (induction (by simp) childrenPlaced inside)
          · next missing =>
              dsimp only at success
              split at success
              · cases success
              · next unclaimed =>
                  obtain ⟨⟨children, typesInside⟩, inside, equality⟩ :=
                    bind_eq_ok_iff.mp success
                  cases equality
                  have nothingBelow : WellPlacedList (above ++ [field]) [] := trivial
                  exact .create (find?_field_eq_none.mp missing) rfl
                    (lookup_eq_none_iff.mp unclaimed) (induction (by simp) nothingBelow inside)

namespace Placement

variable {claim : Claim} {passed : Nat} {segments : List (String × String)}
  {types typesAfter : List (String × String)} {nodes nodesAfter : List Node}

theorem ne_nil (placement : Placement claim passed types segments nodes nodesAfter typesAfter) :
    nodesAfter ≠ [] := by
  cases placement <;> simp

/-- An insertion adds the variable of its claim and keeps all others. -/
theorem leaves_perm
    (placement : Placement claim passed types segments nodes nodesAfter typesAfter) :
    (leavesOf nodesAfter).Perm (claim.leaf :: leavesOf nodes) := by
  induction placement with
  | leaf fresh => simp [leavesOf, Node.leaves]
  | enter apart inner induction =>
      simp only [leavesOf_append, leavesOf, Node.leaves]
      refine ((induction.append_right _).append_left _).trans ?_
      exact List.perm_middle
  | create fresh named unclaimed inner induction =>
      simp only [leavesOf_append, leavesOf, Node.leaves, List.append_nil] at induction ⊢
      exact (induction.append_left _).trans (List.perm_append_singleton _ _)

/-- An insertion claims exactly the types of the groups that it opens. -/
theorem typeNames_perm
    (placement : Placement claim passed types segments nodes nodesAfter typesAfter) :
    (typeNamesOf nodesAfter ++ types.map Prod.fst).Perm
      (typesAfter.map Prod.fst ++ typeNamesOf nodes) := by
  rw [List.perm_iff_count]
  intro counted
  induction placement with
  | leaf fresh => simp [typeNamesOf, Node.typeNames, Nat.add_comm]
  | enter apart inner induction =>
      simp only [typeNamesOf_append, typeNamesOf, Node.typeNames, List.count_append,
        List.count_cons] at induction ⊢
      omega
  | create fresh named unclaimed inner induction =>
      simp only [typeNamesOf_append, typeNamesOf, Node.typeNames, List.map_cons,
        List.count_append, List.count_cons, List.count_nil] at induction ⊢
      omega

theorem types_nodup
    (placement : Placement claim passed types segments nodes nodesAfter typesAfter)
    (distinct : (types.map Prod.fst).Nodup) : (typesAfter.map Prod.fst).Nodup := by
  induction placement with
  | leaf fresh => exact distinct
  | enter apart inner induction => exact induction distinct
  | create fresh named unclaimed inner induction =>
      exact induction (List.nodup_cons.mpr ⟨unclaimed, distinct⟩)

/-- What an insertion below the fields `above` leaves behind is well placed. -/
theorem wellPlaced
    (placement : Placement claim passed types segments nodes nodesAfter typesAfter)
    {above : List String} (path : claim.fields = above ++ segments.map Prod.snd)
    (placed : WellPlacedList above nodes) : WellPlacedList above nodesAfter := by
  induction placement generalizing above with
  | leaf fresh =>
      refine wellPlacedList_append.mpr ⟨placed, ⟨by simp, path, trivial⟩, ?_⟩
      intro node member other isNew
      obtain rfl := List.mem_singleton.mp isNew
      exact (fresh node member).symm
  | @enter passed types typesAfter before after children childrenAfter name field typeName
      segment next rest apart inner induction =>
      obtain ⟨beforePlaced, ⟨later, ⟨-, childrenPlaced⟩, afterPlaced⟩, beside⟩ :=
        wellPlacedList_append.mp placed
      have innerPlaced : WellPlacedList (above ++ [field]) childrenAfter :=
        induction (by simpa using path) childrenPlaced
      refine wellPlacedList_append.mpr
        ⟨beforePlaced, ⟨later, ⟨inner.ne_nil, innerPlaced⟩, afterPlaced⟩, ?_⟩
      intro node member other beyond
      rcases List.mem_cons.mp beyond with rfl | inAfter
      · exact (apart node (List.mem_append_left _ member)).symm
      · exact beside node member other (List.mem_cons_of_mem _ inAfter)
  | @create passed types typesAfter nodes children typeName path' segment field next rest fresh
      named unclaimed inner induction =>
      have innerPlaced : WellPlacedList (above ++ [field]) children :=
        induction (by simpa using path) trivial
      refine wellPlacedList_append.mpr
        ⟨placed, ⟨by simp, ⟨inner.ne_nil, innerPlaced⟩, trivial⟩, ?_⟩
      intro node member other isNew
      obtain rfl := List.mem_singleton.mp isNew
      exact (fresh node member).symm

end Placement

end TypedEnv.Config
