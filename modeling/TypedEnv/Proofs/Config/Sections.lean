import TypedEnv.Proofs.Config.Room

/-!
# Sections of a configuration

The paths of the variables say which sections a configuration has, and every
section takes its type from its path.  The types of a configuration can
therefore be read off the paths of its variables.
-/

namespace TypedEnv.Config

namespace Node

mutual

/-- Groups at and below a node have the types of their paths. -/
def IsNamed (above : List String) : Node → Prop
  | .leaf _ _ _ => True
  | .group _ field typeName children =>
      typeName = Name.typeName (above ++ [field]) ∧ AreNamed (above ++ [field]) children

def AreNamed (above : List String) : List Node → Prop
  | [] => True
  | node :: rest => node.IsNamed above ∧ AreNamed above rest

end

theorem areNamed_append {above : List String} {first second : List Node} :
    AreNamed above (first ++ second) ↔ AreNamed above first ∧ AreNamed above second := by
  induction first with
  | nil => simp [AreNamed]
  | cons node rest induction => simp [AreNamed, induction, and_assoc]

end Node

open Node

/-- What an insertion leaves behind has the types of its paths. -/
theorem Placement.areNamed {claim : Claim} {passed : Nat} {segments : List (String × String)}
    {types typesAfter : List (String × String)} {nodes nodesAfter : List Node}
    {above : List String} (spelled : claim.IsSpelled)
    (placement : Placement claim passed types segments nodes nodesAfter typesAfter)
    (remaining : claim.fields = above ++ segments.map Prod.snd) (depth : passed = above.length)
    (named : AreNamed above nodes) : AreNamed above nodesAfter := by
  induction placement generalizing above with
  | leaf fresh => exact areNamed_append.mpr ⟨named, trivial, trivial⟩
  | enter apart inner induction =>
      obtain ⟨beforeNamed, ⟨typeNamed, childrenNamed⟩, afterNamed⟩ := areNamed_append.mp named
      have innerNamed := induction (by simpa using remaining) (by simp [depth]) childrenNamed
      exact areNamed_append.mpr ⟨beforeNamed, ⟨typeNamed, innerNamed⟩, afterNamed⟩
  | @create passed types typesAfter nodes children typeName path segment field next rest fresh
      opened unclaimed inner induction =>
      have goesOn : claim.fields = above ++ [field] ++ (next :: rest).map Prod.snd := by
        simpa using remaining
      have typeNamed : typeName = Name.typeName (above ++ [field]) :=
        opened.trans (spelled.typeName_opened remaining depth)
      have innerNamed := induction goesOn (by simp [depth]) trivial
      exact areNamed_append.mpr ⟨named, ⟨typeNamed, innerNamed⟩, trivial⟩

mutual

theorem mem_typeNames_iff {above : List String} {node : Node} {typeName : String}
    (placed : node.WellPlaced above) (named : node.IsNamed above) :
    typeName ∈ node.typeNames ↔ ∃ leaf ∈ node.leaves, ∃ path,
      IsAbove above path ∧ IsAbove path leaf.path ∧ Name.typeName path = typeName := by
  cases node with
  | leaf name field entry =>
      have atField : entry.path = above ++ [field] := placed
      refine ⟨fun member => absurd member List.not_mem_nil, ?_⟩
      intro ⟨found, isLeaf, path, isAbove, inside, _⟩
      obtain rfl := List.mem_singleton.mp isLeaf
      rw [atField] at inside
      rcases isAbove.step inside.1 with same | beyond
      · exact absurd same inside.2
      · have long := (beyond.lengthen inside.1).exists_append
        simp at long
  | group name field typeName' children =>
      obtain ⟨nonempty, childrenPlaced⟩ := placed
      obtain ⟨typeNamed, childrenNamed⟩ := named
      rw [Node.typeNames, List.mem_cons, mem_typeNamesOf_iff childrenPlaced childrenNamed,
        Node.leaves]
      constructor
      · intro isType
        rcases isType with rfl | ⟨leaf, isLeaf, path, isAbove, inside, same⟩
        · have groupPlaced : (Node.group name field typeName children).WellPlaced above :=
            ⟨nonempty, childrenPlaced⟩
          obtain ⟨leaf, isLeaf⟩ := exists_mem_leaves groupPlaced
          obtain ⟨child, -, inside⟩ := exists_node_of_mem_leavesOf childrenPlaced isLeaf
          refine ⟨leaf, isLeaf, above ++ [field], isAbove_append (by simp), ?_, typeNamed.symm⟩
          exact (isAbove_append (by simp)).lengthen inside
        · exact ⟨leaf, isLeaf, path, isAbove.widen (List.prefix_append _ _), inside, same⟩
      · intro ⟨found, isLeaf, path, isAbove, inside, same⟩
        obtain ⟨child, -, ⟨rest, goesOn⟩⟩ := exists_node_of_mem_leavesOf childrenPlaced isLeaf
        have inPath : path <+: above ++ field :: child.field :: rest := by
          rw [show above ++ field :: child.field :: rest = found.path by rw [← goesOn]; simp]
          exact inside.1
        rcases isAbove.step inPath with rfl | beyond
        · exact .inl (same.symm.trans typeNamed.symm)
        · exact .inr ⟨found, isLeaf, path, beyond, inside, same⟩

/-- The types of some nodes are those of the sections between the nodes and their variables. -/
theorem mem_typeNamesOf_iff {above : List String} {nodes : List Node} {typeName : String}
    (placed : WellPlacedList above nodes) (named : AreNamed above nodes) :
    typeName ∈ typeNamesOf nodes ↔ ∃ leaf ∈ leavesOf nodes, ∃ path,
      IsAbove above path ∧ IsAbove path leaf.path ∧ Name.typeName path = typeName := by
  cases nodes with
  | nil => simp [typeNamesOf, leavesOf]
  | cons node rest =>
      obtain ⟨-, nodePlaced, restPlaced⟩ := placed
      obtain ⟨nodeNamed, restNamed⟩ := named
      rw [typeNamesOf, List.mem_append, mem_typeNames_iff nodePlaced nodeNamed,
        mem_typeNamesOf_iff restPlaced restNamed, leavesOf]
      simp only [List.mem_append, or_and_right, exists_or]

end

end TypedEnv.Config
