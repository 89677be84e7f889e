import Mathlib.Data.List.Nodup
import TypedEnv.Proofs.Config.Placement

/-!
# Building a configuration

`Builder.Represents` is what holds after every declaration: the forest has one
variable for each declaration so far, it is well placed, and the two tables of
the builder list exactly the constants and the types that are in the forest.
A configuration therefore loses nothing, and its names never clash.
-/

namespace TypedEnv.Config

open Node

/-- The types of the groups of a configuration, depth first. -/
def Forest.typeNames (forest : Forest) : List String :=
  typeNamesOf forest.roots

theorem cutSegments_ne_nil (text : List Char) : cutSegments text ≠ [] := by
  fun_cases cutSegments text <;> simp_all

theorem segmentsOf_ne_nil (name : String) : segmentsOf name ≠ [] := by
  simpa [segmentsOf] using cutSegments_ne_nil name.toList

namespace Claim

/-- What a claim takes over from its declaration. -/
structure Of (front : Option String) (declaration : Declaration) (claim : Claim) : Prop where
  envName : claim.envName = declaration.name
  default : claim.default = declaration.value
  line : claim.line = declaration.line
  segments : claim.segments = segmentsOf (stripFront front declaration.name)
  segments_nonempty : ∀ segment ∈ claim.segments, segment.isEmpty = false
  fields : List.Forall₂ (fun segment field => Name.fieldName segment = .ok field)
    claim.segments claim.fields

variable {front : Option String} {declaration : Declaration} {claim : Claim}

/-- A declaration has the claim that takes over its parts, if each of its segments has a field
name. -/
theorem ofDeclaration_eq_ok_iff :
    ofDeclaration front declaration = .ok claim ↔ claim.Of front declaration := by
  simp only [ofDeclaration]
  split
  · next hasEmpty =>
      refine ⟨fun success => (by cases success), fun taken => ?_⟩
      obtain ⟨segment, member, isEmpty⟩ := List.any_eq_true.mp hasEmpty
      rw [← taken.segments] at member
      exact absurd isEmpty (by simp [taken.segments_nonempty segment member])
  · next noneEmpty =>
      have allNonempty : ∀ segment ∈ segmentsOf (stripFront front declaration.name),
          segment.isEmpty = false := by
        simpa only [List.any_eq_true, not_exists, not_and, Bool.not_eq_true] using noneEmpty
      simp only [bind_eq_ok_iff, pure_eq_ok_iff, mapM_eq_ok_iff, mapError_eq_ok_iff]
      constructor
      · rintro ⟨fields, named, rfl⟩
        exact ⟨rfl, rfl, rfl, rfl, allNonempty, named⟩
      · intro taken
        refine ⟨claim.fields, taken.segments ▸ taken.fields, ?_⟩
        rw [← taken.segments, ← taken.envName, ← taken.default, ← taken.line]

theorem Of.zip (taken : claim.Of front declaration) :
    claim.segments.zip claim.fields ≠ [] ∧
      (claim.segments.zip claim.fields).map Prod.snd = claim.fields := by
  have sameLength : claim.segments.length = claim.fields.length := taken.fields.length_eq
  have nonempty : claim.segments ≠ [] := taken.segments ▸ segmentsOf_ne_nil _
  refine ⟨?_, List.map_snd_zip (Nat.le_of_eq sameLength.symm)⟩
  rw [ne_eq, List.zip_eq_nil_iff, not_or]
  exact ⟨nonempty, fun noFields => nonempty (by simpa [noFields] using sameLength)⟩

/-- The variables of some claims keep the names, defaults and lines of the declarations. -/
theorem declared_leaves {declarations : List Declaration} {claims : List Claim}
    (related : List.Forall₂ (fun declaration claim => claim.Of front declaration)
      declarations claims) :
    ((claims.map Claim.leaf).map fun leaf => (leaf.envName, leaf.default, leaf.line)) =
      declarations.map fun declaration =>
        (declaration.name, declaration.value, declaration.line) := by
  induction related with
  | nil => rfl
  | cons taken others induction =>
      simp only [List.map_cons, induction, Claim.leaf, taken.envName, taken.default, taken.line]

end Claim

namespace Builder

variable {front : Option String} {placed declarations : List Declaration}
  {builder builderAfter : Builder} {declaration : Declaration}

/-- What holds of a builder after the declarations in `placed`. -/
structure Represents (front : Option String) (placed : List Declaration) (builder : Builder) :
    Prop where
  leaves : ∃ claims,
    List.Forall₂ (fun declaration claim => claim.Of front declaration) placed claims ∧
      (leavesOf builder.roots).Perm (claims.map Claim.leaf)
  wellPlaced : WellPlacedList [] builder.roots
  constants : (builder.constants.map Prod.fst).Perm
    ((leavesOf builder.roots).map Leaf.constName)
  constants_nodup : (builder.constants.map Prod.fst).Nodup
  types : (builder.types.map Prod.fst).Perm (typeNamesOf builder.roots)
  types_nodup : (builder.types.map Prod.fst).Nodup

theorem Represents.empty (front : Option String) : Represents front [] Builder.empty where
  leaves := ⟨[], .nil, .refl []⟩
  wellPlaced := trivial
  constants := .refl []
  constants_nodup := .nil
  types := .refl []
  types_nodup := .nil

theorem add_eq_ok_iff :
    builder.add front declaration = .ok builderAfter ↔
      ∃ claim : Claim, claim.Of front declaration ∧ builder.addClaim claim = .ok builderAfter := by
  simp only [add, mapError_eq_ok_iff, bind_eq_ok_iff, Claim.ofDeclaration_eq_ok_iff]

/-- A claim is added when nobody owns its constant and it can be placed. -/
theorem addClaim_eq_ok_iff {claim : Claim} :
    builder.addClaim claim = .ok builderAfter ↔
      claim.constName ∉ builder.constants.map Prod.fst ∧
        ∃ roots types,
          place claim builder.types 0 builder.roots (claim.segments.zip claim.fields) =
              .ok (roots, types) ∧
            builderAfter =
              ⟨roots, (claim.constName, claim.envName) :: builder.constants, types⟩ := by
  rw [addClaim]
  split
  · next owner owned =>
      have taken : claim.constName ∈ builder.constants.map Prod.fst := by
        by_contra absent
        rw [lookup_eq_none_iff.mpr absent] at owned
        cases owned
      simp [taken]
  · next unowned =>
      simp only [lookup_eq_none_iff.mp unowned, bind_eq_ok_iff, pure_eq_ok_iff, Prod.exists,
        not_false_eq_true, true_and, eq_comm (b := builderAfter)]

theorem Represents.add (before : Represents front placed builder)
    (added : builder.add front declaration = .ok builderAfter) :
    Represents front (placed ++ [declaration]) builderAfter := by
  obtain ⟨claim, taken, addedClaim⟩ := add_eq_ok_iff.mp added
  obtain ⟨unowned, roots, types, inserted, rfl⟩ := addClaim_eq_ok_iff.mp addedClaim
  obtain ⟨nonempty, fields⟩ := taken.zip
  have placement := Placement.of_place nonempty before.wellPlaced inserted
  obtain ⟨claims, related, leaves⟩ := before.leaves
  have newLeaves : (leavesOf roots).Perm (claim.leaf :: claims.map Claim.leaf) :=
    placement.leaves_perm.trans (leaves.cons claim.leaf)
  refine ⟨⟨claims ++ [claim], ?_, ?_⟩, ?_, ?_, ?_, ?_, ?_⟩
  · exact List.rel_append related (.cons taken .nil)
  · rw [List.map_append]
    exact newLeaves.trans (List.perm_append_singleton _ _).symm
  · exact placement.wellPlaced (by rw [fields, List.nil_append]) before.wellPlaced
  · have constants := placement.leaves_perm.map Leaf.constName
    exact (before.constants.cons claim.constName).trans constants.symm
  · exact List.nodup_cons.mpr ⟨unowned, before.constants_nodup⟩
  · -- the old types cancel on both sides
    have balance := placement.typeNames_perm.trans
      (List.Perm.append_left (types.map Prod.fst) before.types.symm)
    exact ((List.perm_append_right_iff _).mp balance).symm
  · exact placement.types_nodup before.types_nodup

/-- A builder represents all the declarations that were added to it. -/
theorem represents_of_foldlM
    (built : declarations.foldlM (Builder.add front) .empty = .ok builder) :
    Represents front declarations builder := by
  refine foldlM_induction built (.empty front) ?_
  intro before declaration after state next _ represents added
  exact represents.add added

end Builder

namespace Forest

variable {declarations : List Declaration} {front : Option String} {forest : Forest}

/-- Every configuration is the forest of a builder that represents its declarations. -/
theorem represents_of_build (built : build declarations front = .ok forest) :
    ∃ builder : Builder, builder.roots = forest.roots ∧
      builder.Represents (front.bind normalizePrefix?) declarations := by
  obtain ⟨builder, folded, equality⟩ := bind_eq_ok_iff.mp built
  obtain rfl := pure_eq_ok_iff.mp equality
  exact ⟨builder, rfl, Builder.represents_of_foldlM folded⟩

/-- What holds of no nodes, and stays with each declaration that is added, holds of the topmost
nodes of a configuration. -/
theorem build_induction {motive : List Node → Prop} (built : build declarations front = .ok forest)
    (none : motive [])
    (stays : ∀ placed declaration rest builder builderAfter,
      declarations = placed ++ declaration :: rest →
        Builder.Represents (front.bind normalizePrefix?) placed builder → motive builder.roots →
          builder.add (front.bind normalizePrefix?) declaration = .ok builderAfter →
            motive builderAfter.roots) :
    motive forest.roots := by
  obtain ⟨builder, folded, equality⟩ := bind_eq_ok_iff.mp built
  obtain rfl := pure_eq_ok_iff.mp equality
  have run := foldlM_induction (motive := fun placed (builder : Builder) =>
    builder.Represents (front.bind normalizePrefix?) placed ∧ motive builder.roots)
    folded ⟨.empty _, none⟩ ?_
  · exact run.2
  · intro placed declaration rest builder builderAfter parts ⟨represents, holds⟩ added
    exact ⟨represents.add added,
      stays placed declaration rest builder builderAfter parts represents holds added⟩

/-- The variables of a configuration are those that its declarations claim. -/
theorem leaves_of_build (built : build declarations front = .ok forest) :
    ∃ claims, List.Forall₂
        (fun declaration claim => claim.Of (front.bind normalizePrefix?) declaration)
        declarations claims ∧
      forest.leaves.Perm (claims.map Claim.leaf) := by
  obtain ⟨builder, roots, represents⟩ := represents_of_build built
  obtain ⟨claims, related, leaves⟩ := represents.leaves
  exact ⟨claims, related, by rwa [Forest.leaves, ← roots]⟩

theorem wellPlaced_of_build (built : build declarations front = .ok forest) :
    WellPlacedList [] forest.roots := by
  obtain ⟨builder, roots, represents⟩ := represents_of_build built
  exact roots ▸ represents.wellPlaced

/-- The parts of the declarations are those of the variables, in some order. -/
theorem declared_perm_of_build (built : build declarations front = .ok forest) :
    (forest.leaves.map fun leaf => (leaf.envName, leaf.default, leaf.line)).Perm
      (declarations.map fun declaration =>
        (declaration.name, declaration.value, declaration.line)) := by
  obtain ⟨claims, related, leaves⟩ := leaves_of_build built
  rw [← Claim.declared_leaves related]
  exact leaves.map _

theorem constName_of_build (built : build declarations front = .ok forest) :
    ∀ leaf ∈ forest.leaves, leaf.constName = Name.constName leaf.path := by
  obtain ⟨claims, -, leaves⟩ := leaves_of_build built
  intro leaf member
  obtain ⟨claim, -, rfl⟩ := List.mem_map.mp (leaves.mem_iff.mp member)
  rfl

theorem constNames_nodup_of_build (built : build declarations front = .ok forest) :
    (forest.leaves.map Leaf.constName).Nodup := by
  obtain ⟨builder, roots, represents⟩ := represents_of_build built
  rw [Forest.leaves, ← roots]
  exact represents.constants.nodup_iff.mp represents.constants_nodup

theorem typeNames_nodup_of_build (built : build declarations front = .ok forest) :
    forest.typeNames.Nodup := by
  obtain ⟨builder, roots, represents⟩ := represents_of_build built
  rw [Forest.typeNames, ← roots]
  exact represents.types.nodup_iff.mp represents.types_nodup

/-- Handles differ because constants do: both are made from the fields between underscores. -/
theorem handleNames_nodup_of_build (built : build declarations front = .ok forest) :
    (forest.leaves.map Leaf.handleName).Nodup := by
  have constants := constNames_nodup_of_build built
  refine List.Nodup.map_on ?_ (.of_map _ constants)
  intro leaf member other otherMember sameHandle
  have sameFields := Leaf.handleName_eq_iff.mp sameHandle
  refine List.inj_on_of_nodup_map constants member otherMember ?_
  rw [constName_of_build built leaf member, constName_of_build built other otherMember,
    Name.constName, Name.constName, sameFields]

/-- A configuration has exactly one variable for each declaration, with its name, default and
line, and nothing else.  Its nodes are well placed, and no two of its constants, of its handles
or of the types of its groups have the same name. -/
theorem build_represents_declarations (built : build declarations front = .ok forest) :
    (forest.leaves.map fun leaf => (leaf.envName, leaf.default, leaf.line)).Perm
        (declarations.map fun declaration =>
          (declaration.name, declaration.value, declaration.line)) ∧
      WellPlacedList [] forest.roots ∧
      (forest.leaves.map Leaf.constName).Nodup ∧
      (forest.leaves.map Leaf.handleName).Nodup ∧
      forest.typeNames.Nodup :=
  ⟨declared_perm_of_build built, wellPlaced_of_build built, constNames_nodup_of_build built,
    handleNames_nodup_of_build built, typeNames_nodup_of_build built⟩

/-- Three declarations: a group, a variable outside, and a group inside the first one. -/
def interleaved : List Declaration :=
  [⟨"P_A__B", "x", .string "x", 1⟩, ⟨"P_C", "3", .int 3, 2⟩, ⟨"P_A__D__E", "t", .bool true, 4⟩]

/-- The configuration of `interleaved`, without its common front text `P`. -/
def interleavedForest : Forest :=
  ⟨[.group "A" "a" "A"
      [.leaf "B" "b" ⟨"P_A__B", "A_B_ENV_NAME", ["a", "b"], .string "x", 1⟩,
       .group "D" "d" "AD"
         [.leaf "E" "e" ⟨"P_A__D__E", "A_D_E_ENV_NAME", ["a", "d", "e"], .bool true, 4⟩]],
    .leaf "C" "c" ⟨"P_C", "C_ENV_NAME", ["c"], .int 3, 2⟩]⟩

theorem build_represents_interleaved :
    build interleaved (some "P") = .ok interleavedForest ∧
      (interleavedForest.leaves.map fun leaf => (leaf.envName, leaf.default, leaf.line)).Perm
        (interleaved.map fun declaration =>
          (declaration.name, declaration.value, declaration.line)) ∧
      WellPlacedList [] interleavedForest.roots ∧
      (interleavedForest.leaves.map Leaf.constName).Nodup ∧
      (interleavedForest.leaves.map Leaf.handleName).Nodup ∧
      interleavedForest.typeNames.Nodup :=
  have built : build interleaved (some "P") = .ok interleavedForest := rfl
  ⟨built, build_represents_declarations built⟩

end Forest

end TypedEnv.Config
