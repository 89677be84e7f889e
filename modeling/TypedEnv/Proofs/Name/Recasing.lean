import TypedEnv.Config.Forest
import TypedEnv.Proofs.Declaration.Line
import TypedEnv.Proofs.Name.Segment

/-!
# Recasing of fields

A type is named from segments as they were written, and a constant from joined
fields, which are cut into words once more.  All spellings cut a name at the
same places, so the fields decide both: segments with the same fields
have the same type, constants are told apart by what tells handles apart, and
a field is its own field name.

All this is about ASCII.  Beyond it there are capitals such as `𝐀` that stay
capitals in lower case: the field of `A𝐀` is `a𝐀`, and the field of `a𝐀` is
`a_𝐀`.
-/

namespace TypedEnv.Name

open Config (Leaf)

/-- Segments of the characters that a declaration can have in its name, and the field of each. -/
structure HaveFields (segments fields : List String) : Prop where
  named : ∀ segment ∈ segments, ∀ c ∈ segment.toList, Declaration.isNameChar c = true
  accepted : List.Forall₂ (fun segment name => fieldName segment = .ok name) segments fields

variable {segments otherSegments fields otherFields : List String}

namespace HaveFields

theorem ascii (haveFields : HaveFields segments fields) :
    ∀ segment ∈ segments, ∀ c ∈ segment.toList, c.toNat < 128 :=
  fun segment member c inSegment =>
    Declaration.ascii_of_isNameChar (haveFields.named segment member c inSegment)

theorem isField (haveFields : HaveFields segments fields) : ∀ name ∈ fields, IsField name :=
  isField_of_forall₂ haveFields.ascii haveFields.accepted

/-- The fields name the type that the segments name. -/
theorem typeName_fields (haveFields : HaveFields segments fields) :
    typeName fields = typeName segments := by
  obtain ⟨rfl, -⟩ := forall₂_fieldName_iff.mp haveFields.accepted
  exact typeName_map_field haveFields.ascii

end HaveFields

/-- The fields of some segments decide the names that are made from the segments.  The same
fields give the same type; constants are equal exactly when the joined fields are, and so are
handles; and no field changes when it is made a field again. -/
theorem recasings_follow_fields (first : HaveFields segments fields)
    (second : HaveFields otherSegments otherFields) :
    (fields = otherFields → typeName segments = typeName otherSegments) ∧
      (constName fields = constName otherFields ↔
        String.intercalate "_" fields = String.intercalate "_" otherFields) ∧
      (∀ leaf other : Leaf, leaf.path = fields → other.path = otherFields →
        (constName fields = constName otherFields ↔ leaf.handleName = other.handleName)) ∧
      ∀ name ∈ fields, fieldName name = .ok name := by
  have constants := constName_eq_iff first.isField second.isField
  refine ⟨?_, constants, ?_, ?_⟩
  · intro sameFields
    calc typeName segments
      _ = typeName fields := first.typeName_fields.symm
      _ = typeName otherFields := congrArg typeName sameFields
      _ = typeName otherSegments := second.typeName_fields
  · intro leaf other path otherPath
    rw [constants, Leaf.handleName_eq_iff, path, otherPath]
  · intro name member
    exact (first.isField name member).fieldName_eq

/-- Three spellings; the third one begins its second segment earlier. -/
theorem recasings_follow_fields_pool :
    HaveFields ["maxPool", "HTTP.Size2"] ["max_pool", "http_size2"] ∧
      HaveFields ["MAX_POOL", "httpSize2"] ["max_pool", "http_size2"] ∧
      HaveFields ["Max", "POOLHttp_.size2"] ["max", "pool_http_size2"] ∧
      typeName ["maxPool", "HTTP.Size2"] = typeName ["MAX_POOL", "httpSize2"] ∧
      constName ["max_pool", "http_size2"] = constName ["max", "pool_http_size2"] ∧
      (∀ leaf other : Leaf, leaf.path = ["max_pool", "http_size2"] →
        other.path = ["max", "pool_http_size2"] → leaf.handleName = other.handleName) ∧
      fieldName "http_size2" = .ok "http_size2" := by
  have first : HaveFields ["maxPool", "HTTP.Size2"] ["max_pool", "http_size2"] :=
    ⟨by simp [Declaration.isNameChar], .cons rfl (.cons rfl .nil)⟩
  have second : HaveFields ["MAX_POOL", "httpSize2"] ["max_pool", "http_size2"] :=
    ⟨by simp [Declaration.isNameChar], .cons rfl (.cons rfl .nil)⟩
  have third : HaveFields ["Max", "POOLHttp_.size2"] ["max", "pool_http_size2"] :=
    ⟨by simp [Declaration.isNameChar], .cons rfl (.cons rfl .nil)⟩
  obtain ⟨types, -, -, unchanged⟩ := recasings_follow_fields first second
  obtain ⟨-, constants, handles, -⟩ := recasings_follow_fields first third
  have sameConstant := constants.mpr (by decide)
  refine ⟨first, second, third, types rfl, sameConstant, ?_, unchanged _ (by simp)⟩
  intro leaf other path otherPath
  exact (handles leaf other path otherPath).mp sameConstant

end TypedEnv.Name
