import TypedEnv.Proofs.Config.Compatibility
import TypedEnv.Proofs.Declaration.File
import TypedEnv.Proofs.Module.Correspondence

/-!
# Names of structures

The structures of a module share their names with nothing that the module
uses by its name alone.  For the sections this always holds.  The structure of
the whole configuration has the name that was read from the options, but only
the text of the options is compared with other names: the two differ when
blanks, comments or the mark of a raw identifier stand around the name.
-/

namespace TypedEnv.Module

open Config (Forest)
open Source (Identifier)

/-- The types of the language that a module uses by their names alone. -/
def primitiveNames : List String :=
  ["bool", "i64", "u64", "f64", "str"]

/-- The names of the structures differ, and none of them hides an imported name or a type of the
language. -/
structure IsHygienic (module : Module) : Prop where
  distinct : module.structureNames.Nodup
  no_import : ∀ name ∈ module.structureNames, name ∉ importedNames
  no_primitive : ∀ name ∈ module.structureNames, name ∉ primitiveNames

variable {text : String} {declarations : List Declaration} {front : Option String}
  {forest : Forest} {options : Options} {module : Module}

/-- The type of a section begins with a capital or a digit, and no type of the language does. -/
theorem not_mem_primitiveNames_of_build
    (named : ∀ declaration ∈ declarations, ∀ c ∈ declaration.name.toList,
      Declaration.isNameChar c = true)
    (built : Forest.build declarations front = .ok forest) :
    ∀ typeName ∈ forest.typeNames, typeName ∉ primitiveNames := by
  intro typeName isType isPrimitive
  obtain ⟨path, nonempty, accepted, rfl⟩ := Forest.exists_path_of_mem_typeNames named built isType
  obtain ⟨c, rest, spelled, notLower⟩ := Name.exists_toList_typeName nonempty accepted
  have lower : ∀ name ∈ primitiveNames, name.toList.head?.any Char.isLower = true := by decide
  have begins := lower _ isPrimitive
  rw [spelled] at begins
  simp [notLower] at begins

/-- What hygiene comes down to when the sections have it anyway. -/
theorem isHygienic_iff_of_sections
    (names : module.structureNames = module.root.text :: forest.typeNames)
    (distinct : forest.typeNames.Nodup)
    (no_import : ∀ typeName ∈ forest.typeNames, typeName ∉ importedNames)
    (no_primitive : ∀ typeName ∈ forest.typeNames, typeName ∉ primitiveNames) :
    module.IsHygienic ↔ module.root.text ∉ forest.typeNames ∧
      module.root.text ∉ importedNames ∧ module.root.text ∉ primitiveNames := by
  constructor
  · intro hygienic
    have isFirst : module.root.text ∈ module.structureNames := names ▸ List.mem_cons_self
    have apart := hygienic.distinct
    rw [names, List.nodup_cons] at apart
    exact ⟨apart.1, hygienic.no_import _ isFirst, hygienic.no_primitive _ isFirst⟩
  · intro ⟨fresh, notImported, notPrimitive⟩
    constructor
    · rw [names]
      exact List.nodup_cons.mpr ⟨fresh, distinct⟩
    · rw [names]
      exact List.forall_mem_cons.mpr ⟨notImported, no_import⟩
    · rw [names]
      exact List.forall_mem_cons.mpr ⟨notPrimitive, no_primitive⟩

/-- The structures of a module are named apart from each other and from everything that the
module uses exactly when this holds of the structure of the whole configuration.  Its name is
read from the options, and when the options hold nothing but the name it has to be no type of the
language. -/
theorem isHygienic_iff_root (read : Declaration.readTyped text = .ok declarations)
    (built : Forest.build declarations front = .ok forest)
    (made : synthesize forest options = .ok module) :
    Identifier.read options.root = .ok module.root ∧
      (module.IsHygienic ↔ module.root.text ∉ forest.typeNames ∧
        module.root.text ∉ importedNames ∧ module.root.text ∉ primitiveNames) ∧
      (module.root.text = options.root →
        (module.IsHygienic ↔ module.root.text ∉ primitiveNames)) := by
  have names := structureNames_of_synthesize made
  obtain ⟨runtime, root, checked, isModule⟩ := eq_describing_of_synthesize made
  obtain rfl : module.root = root := congrArg Module.root isModule
  obtain ⟨rootRead, notImported, fresh, sectionsNotImported⟩ := of_checkOptions checked
  have iffRoot := isHygienic_iff_of_sections names (Forest.typeNames_nodup_of_build built)
    sectionsNotImported
    (not_mem_primitiveNames_of_build (Declaration.isNameChar_of_readTyped read) built)
  refine ⟨rootRead, iffRoot, fun sameText => ?_⟩
  rw [iffRoot, sameText]
  exact ⟨fun conditions => conditions.2.2,
    fun notPrimitive => ⟨fresh, notImported, notPrimitive⟩⟩

open Config.Forest in
theorem isHygienic_iff_root_interleaved :
    ∃ module, synthesize interleavedForest .standard = .ok module ∧
      Identifier.read Options.standard.root = .ok module.root ∧
      (module.IsHygienic ↔ module.root.text ∉ interleavedForest.typeNames ∧
        module.root.text ∉ importedNames ∧ module.root.text ∉ primitiveNames) ∧
      (module.root.text = Options.standard.root →
        (module.IsHygienic ↔ module.root.text ∉ primitiveNames)) := by
  have read : Declaration.readTyped "P_A__B=x\nP_C=3\n\nP_A__D__E=t\n" = .ok interleaved := by
    decide +kernel
  have built : build interleaved (some "P") = .ok interleavedForest := rfl
  obtain ⟨module, made⟩ := exists_module_interleaved
  exact ⟨module, made, isHygienic_iff_root read built made⟩

/-- Behind a blank, the name of the section is the name of two structures. -/
theorem not_isHygienic_blankRoot :
    ∃ declarations module,
      Declaration.readTyped "DB__HOST=x" = .ok declarations ∧
      Forest.build declarations none = .ok databaseForest ∧
      synthesize databaseForest ⟨"envgen_runtime", " Db"⟩ = .ok module ∧
      ¬ module.IsHygienic := by
  obtain ⟨declarations, module, read, built, made, rootText⟩ := exists_module_blankRoot
  refine ⟨declarations, module, read, built, made, fun hygienic => ?_⟩
  have distinct := hygienic.distinct
  rw [structureNames_of_synthesize made, rootText] at distinct
  exact absurd distinct (by decide)

end TypedEnv.Module
