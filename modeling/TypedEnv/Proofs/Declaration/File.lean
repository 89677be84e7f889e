import Mathlib.Data.List.Nodup
import TypedEnv.Declaration.File
import TypedEnv.Proofs.Declaration.Grammar
import TypedEnv.Proofs.Value.Kind

/-!
# Declarations of a file

Whatever is made of the lines of a file, it is made of declarations whose
names differ and have nothing but name characters.  Typed declarations take
over the name, the text and the line of a raw one, and their values are
inferred from the text.
-/

namespace TypedEnv.Declaration

variable {α : Type} {accept : RawDeclaration → Outcome Diagnostic α} {seen : List String}
  {number : Nat} {lines : List (List Char)} {results : List α}

/-- What is read from lines is made of declarations with names that differ from each other and
from those that were seen before, and that have nothing but name characters. -/
theorem declarations_of_readLines (read : readLines accept seen number lines = .ok results) :
    ∃ raws, List.Forall₂ (fun raw result => accept raw = .ok result) raws results ∧
      (raws.map RawDeclaration.name).Nodup ∧ (∀ raw ∈ raws, raw.name ∉ seen) ∧
      ∀ raw ∈ raws, ∀ c ∈ raw.name.toList, isNameChar c = true := by
  induction lines generalizing seen number results with
  | nil =>
      cases read
      exact ⟨[], .nil, .nil, by simp, by simp⟩
  | cons line rest induction =>
      rw [readLines] at read
      split at read
      · exact induction read
      · cases read
      · next name value declares =>
          dsimp only at read
          split at read
          · cases read
          · next fresh =>
              obtain ⟨result, accepted, read⟩ := bind_eq_ok_iff.mp read
              obtain ⟨others, readOthers, read⟩ := bind_eq_ok_iff.mp read
              obtain rfl := pure_eq_ok_iff.mp read
              obtain ⟨raws, related, distinct, unseen, named⟩ := induction readOthers
              refine ⟨_ :: raws, .cons accepted related, ?_, ?_, ?_⟩
              · refine List.nodup_cons.mpr ⟨?_, distinct⟩
                intro member
                obtain ⟨raw, inRest, same⟩ := List.mem_map.mp member
                exact unseen raw inRest (by simp [same])
              · intro raw member
                rcases List.mem_cons.mp member with rfl | inRest
                · simpa using fresh
                · intro inSeen
                  exact unseen raw inRest (List.mem_cons_of_mem _ inSeen)
              · intro raw member
                rcases List.mem_cons.mp member with rfl | inRest
                · simpa using isNameChar_of_read declares
                · exact named raw inRest

/-- A declaration without its value. -/
def untyped (declaration : Declaration) : RawDeclaration :=
  ⟨declaration.name, declaration.raw, declaration.line⟩

/-- A typed declaration has the parts of its raw one and the value inferred from its text. -/
theorem ofRaw_eq_ok_iff {raw : RawDeclaration} {declaration : Declaration} :
    ofRaw raw = .ok declaration ↔
      declaration.untyped = raw ∧ infer declaration.raw = .ok declaration.value := by
  rw [ofRaw, map_eq_ok_iff]
  constructor
  · rintro ⟨value, inferred, rfl⟩
    exact ⟨rfl, Outcome.mapCause_eq_ok_iff.mp inferred⟩
  · rintro ⟨rfl, inferred⟩
    exact ⟨declaration.value, Outcome.mapCause_eq_ok_iff.mpr inferred, rfl⟩

theorem forall₂_ofRaw_iff {raws : List RawDeclaration} {declarations : List Declaration} :
    List.Forall₂ (fun raw declaration => ofRaw raw = .ok declaration) raws declarations ↔
      declarations.map untyped = raws ∧
        ∀ declaration ∈ declarations, infer declaration.raw = .ok declaration.value := by
  induction declarations generalizing raws with
  | nil => simp [List.forall₂_nil_right_iff, eq_comm]
  | cons declaration rest induction =>
      rw [List.forall₂_cons_right_iff, List.map_cons, List.forall_mem_cons]
      constructor
      · rintro ⟨raw, others, accepted, related, rfl⟩
        obtain ⟨rfl, inferred⟩ := ofRaw_eq_ok_iff.mp accepted
        obtain ⟨rfl, allInferred⟩ := induction.mp related
        exact ⟨rfl, inferred, allInferred⟩
      · rintro ⟨rfl, inferred, allInferred⟩
        exact ⟨_, _, ofRaw_eq_ok_iff.mpr ⟨rfl, inferred⟩,
          induction.mpr ⟨rfl, allInferred⟩, rfl⟩

variable {text : String} {declarations : List Declaration}

/-- No two declarations of a file have the same name. -/
theorem names_nodup_of_readTyped (read : readTyped text = .ok declarations) :
    (declarations.map Declaration.name).Nodup := by
  obtain ⟨raws, related, distinct, -⟩ := declarations_of_readLines read
  obtain ⟨rfl, -⟩ := forall₂_ofRaw_iff.mp related
  rw [List.map_map] at distinct
  exact distinct

theorem isNameChar_of_readTyped (read : readTyped text = .ok declarations) :
    ∀ declaration ∈ declarations, ∀ c ∈ declaration.name.toList, isNameChar c = true := by
  obtain ⟨raws, related, -, -, named⟩ := declarations_of_readLines read
  obtain ⟨rfl, -⟩ := forall₂_ofRaw_iff.mp related
  intro declaration member
  exact named declaration.untyped (List.mem_map_of_mem member)

theorem inferred_of_readTyped (read : readTyped text = .ok declarations) :
    ∀ declaration ∈ declarations, infer declaration.raw = .ok declaration.value := by
  obtain ⟨raws, related, -, -⟩ := declarations_of_readLines read
  exact (forall₂_ofRaw_iff.mp related).2

end TypedEnv.Declaration
