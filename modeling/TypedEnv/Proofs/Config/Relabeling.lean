import TypedEnv.Proofs.Config.Order

/-!
# Front texts only relabel

A front text is removed before a name is cut into segments, and after that the
whole name is used as a label only: of a variable, of the owner of a constant,
and in diagnostics.  `relabel` changes labels and nothing else, and building
commutes with it.  A front text is therefore as good as shorter names.
-/

namespace TypedEnv

section MapBoth

variable {ε δ α β γ ζ : Type}

/-- A result with another error and another value. -/
def mapBoth (error : ε → δ) (value : α → β) (result : Except ε α) : Except δ β :=
  (result.map value).mapError error

theorem mapBoth_ok {error : ε → δ} {value : α → β} {result : α} :
    mapBoth error value (.ok result) = .ok (value result) :=
  rfl

theorem mapBoth_pure {error : ε → δ} {value : α → β} {result : α} :
    mapBoth error value (pure result) = pure (value result) :=
  rfl

theorem mapError_mapBoth {first : ε → δ} {second : γ → ζ} {place : ε → γ} {placeChanged : δ → ζ}
    {value : α → β} {result : Except ε α}
    (natural : ∀ cause, placeChanged (first cause) = second (place cause)) :
    (mapBoth first value result).mapError placeChanged =
      mapBoth second value (result.mapError place) := by
  cases result with
  | error cause => exact congrArg Except.error (natural cause)
  | ok result => rfl

/-- A change goes through two steps if it goes through the second one. -/
theorem mapBoth_bind {error : ε → δ} {before : α → β} {after : γ → ζ} {step : Except ε α}
    {next : α → Except ε γ} {nextChanged : β → Except δ ζ}
    (natural : ∀ value, nextChanged (before value) = mapBoth error after (next value)) :
    mapBoth error before step >>= nextChanged = mapBoth error after (step >>= next) := by
  cases step with
  | error cause => rfl
  | ok value => exact natural value

/-- A change goes through a run if it goes through each of its steps. -/
theorem foldlM_mapBoth {error : ε → δ} {state : α → β} {step : α → γ → Except ε α}
    {stepChanged : β → ζ → Except δ β} {related : γ → ζ → Prop} {items : List γ} {others : List ζ}
    (natural : ∀ start item other, related item other →
      stepChanged (state start) other = mapBoth error state (step start item))
    (pairs : List.Forall₂ related items others) (start : α) :
    others.foldlM stepChanged (state start) = mapBoth error state (items.foldlM step start) := by
  induction pairs generalizing start with
  | nil => rfl
  | cons first _ induction =>
      rw [List.foldlM_cons, List.foldlM_cons, natural start _ _ first]
      exact mapBoth_bind induction

theorem mapM_mapBoth {error : ε → δ} {step : γ → Except ε α} {items : List γ} :
    items.mapM (fun item => (step item).mapError error) = mapBoth error id (items.mapM step) := by
  induction items with
  | nil => rfl
  | cons item rest induction =>
      have first : (step item).mapError error = mapBoth error id (step item) := by
        cases step item <;> rfl
      rw [List.mapM_cons, List.mapM_cons, induction, first]
      exact mapBoth_bind fun value => mapBoth_bind fun others => rfl

end MapBoth

/-- Only owners that are variables are named by labels. -/
def Clash.relabel (rename : String → String) : Clash → Clash
  | .constant taken owner => .constant taken (rename owner)
  | .sectionType path owner typeName => .sectionType path owner typeName
  | .variableAtPath path owner => .variableAtPath path (rename owner)
  | .field taken owner => .field taken (rename owner)
  | .sectionField taken => .sectionField taken
  | .rootImport => .rootImport
  | .reservedType typeName => .reservedType typeName

def Cause.relabel (rename : String → String) : Cause → Cause
  | .duplicate name => .duplicate (rename name)
  | .invalidName name reason => .invalidName (rename name) reason
  | .conflict name clash => .conflict (rename name) (clash.relabel rename)
  | cause => cause

def Diagnostic.relabel (rename : String → String) (diagnostic : Diagnostic) : Diagnostic :=
  { diagnostic with cause := diagnostic.cause.relabel rename }

namespace Config

def Leaf.relabel (rename : String → String) (leaf : Leaf) : Leaf :=
  { leaf with envName := rename leaf.envName }

namespace Node

mutual

/-- A node with other names for its variables. -/
def relabel (rename : String → String) : Node → Node
  | .leaf name field entry => .leaf name field (entry.relabel rename)
  | .group name field typeName children => .group name field typeName (relabelAll rename children)

def relabelAll (rename : String → String) : List Node → List Node
  | [] => []
  | node :: rest => node.relabel rename :: relabelAll rename rest

end

variable {rename : String → String} {nodes : List Node} {field : String}

theorem relabelAll_eq_map : relabelAll rename nodes = nodes.map (relabel rename) := by
  induction nodes with
  | nil => rfl
  | cons node rest induction => rw [relabelAll, List.map_cons, induction]

theorem field_relabel (node : Node) : (node.relabel rename).field = node.field := by
  cases node <;> rfl

theorem find?_relabelAll :
    (relabelAll rename nodes).find? (·.field == field) =
      (nodes.find? (·.field == field)).map (relabel rename) := by
  simp [relabelAll_eq_map, List.find?_map, field_relabel]

end Node

open Node

def Forest.relabel (rename : String → String) (forest : Forest) : Forest :=
  ⟨relabelAll rename forest.roots⟩

def Claim.relabel (rename : String → String) (claim : Claim) : Claim :=
  { claim with envName := rename claim.envName }

def Builder.relabel (rename : String → String) (builder : Builder) : Builder :=
  ⟨relabelAll rename builder.roots,
    builder.constants.map fun (constant, owner) => (constant, rename owner), builder.types⟩

section Naturality

variable {rename : String → String} {claim : Claim} {builder : Builder}

theorem replaceChildren_relabelAll {field : String} {children nodes : List Node} :
    replaceChildren field (relabelAll rename children) (relabelAll rename nodes) =
      relabelAll rename (replaceChildren field children nodes) := by
  simp only [replaceChildren, relabelAll_eq_map, List.map_map]
  refine List.map_congr_left fun node _ => ?_
  cases node with
  | leaf name other entry => rfl
  | group name other typeName before =>
      simp only [Function.comp_apply, Node.relabel]
      split
      · rw [Node.relabel, relabelAll_eq_map]
      · rw [Node.relabel]

theorem relabelAll_append {first second : List Node} :
    relabelAll rename (first ++ second) = relabelAll rename first ++ relabelAll rename second := by
  simp only [relabelAll_eq_map, List.map_append]

/-- A variable is placed where its fields say, whatever its label is. -/
theorem place_relabel {types : List (String × String)} {passed : Nat} {nodes : List Node}
    {segments : List (String × String)} :
    place (claim.relabel rename) types passed (relabelAll rename nodes) segments =
      mapBoth (Clash.relabel rename) (fun placed => (relabelAll rename placed.1, placed.2))
        (place claim types passed nodes segments) := by
  induction segments generalizing types passed nodes with
  | nil => rfl
  | cons step rest induction =>
      obtain ⟨segment, field⟩ := step
      cases rest with
      | nil =>
          rw [place, place, find?_relabelAll]
          cases nodes.find? (·.field == field) with
          | none =>
              rw [Option.map_none, mapBoth_ok, relabelAll_append]
              rfl
          | some node => cases node <;> rfl
      | cons next rest =>
          rw [place, place, find?_relabelAll]
          cases nodes.find? (·.field == field) with
          | none =>
              simp only [Option.map_none, Claim.relabel]
              cases types.lookup (Name.typeName (claim.segments.take (passed + 1))) with
              | some owner => rfl
              | none =>
                  -- a new group is empty, with labels changed or not
                  refine (congrArg (· >>= _) (@induction _ _ [])).trans (mapBoth_bind ?_)
                  intro placed
                  rw [mapBoth_pure, relabelAll_append]
                  rfl
          | some node =>
              cases node with
              | leaf name other entry => rfl
              | group name other typeName children =>
                  simp only [Option.map_some, Node.relabel, induction]
                  refine mapBoth_bind fun placed => ?_
                  rw [mapBoth_pure, replaceChildren_relabelAll]

theorem lookup_relabel {entries : List (String × String)} {key : String} :
    (entries.map fun (constant, owner) => (constant, rename owner)).lookup key =
      (entries.lookup key).map rename := by
  induction entries with
  | nil => rfl
  | cons entry rest induction =>
      obtain ⟨constant, owner⟩ := entry
      rw [List.map_cons, List.lookup_cons, List.lookup_cons, induction]
      cases key == constant <;> rfl

theorem addClaim_relabel :
    (builder.relabel rename).addClaim (claim.relabel rename) =
      mapBoth (Clash.relabel rename) (Builder.relabel rename) (builder.addClaim claim) := by
  rw [Builder.addClaim, Builder.addClaim, Builder.relabel, lookup_relabel]
  have sameConstant : (claim.relabel rename).constName = claim.constName := rfl
  rw [sameConstant]
  cases builder.constants.lookup claim.constName with
  | some owner => rfl
  | none =>
      exact (congrArg (· >>= _) place_relabel).trans (mapBoth_bind fun _ => rfl)

variable {front : Option String} {declaration other : Declaration}

theorem stripFront_none (name : String) : stripFront none name = name :=
  rfl

/-- A claim is made from the name without the front text, and the whole name is its label. -/
theorem ofDeclaration_relabel
    (shortened : other = { declaration with name := stripFront front declaration.name }) :
    Claim.ofDeclaration none other =
      mapBoth (Cause.relabel (stripFront front)) (Claim.relabel (stripFront front))
        (Claim.ofDeclaration front declaration) := by
  subst shortened
  simp only [Claim.ofDeclaration, stripFront_none, mapM_mapBoth]
  split
  · rfl
  · -- what is wrong with a segment is told of the shorter name
    have relabeled : ∀ named : Except Name.NameProblem (List String),
        mapBoth (fun problem => Cause.invalidName (stripFront front declaration.name)
            (.badSegment problem)) id named =
          mapBoth (Cause.relabel (stripFront front)) id
            (mapBoth (fun problem => Cause.invalidName declaration.name (.badSegment problem)) id
              named) := by
      intro named
      cases named <;> rfl
    rw [relabeled]
    exact mapBoth_bind fun fields => rfl

theorem add_relabel
    (shortened : other = { declaration with name := stripFront front declaration.name }) :
    (builder.relabel (stripFront front)).add none other =
      mapBoth (Diagnostic.relabel (stripFront front)) (Builder.relabel (stripFront front))
        (builder.add front declaration) := by
  have claimed := ofDeclaration_relabel shortened
  have sameLine : other.line = declaration.line := by rw [shortened]
  rw [Builder.add, Builder.add, claimed, sameLine]
  refine (congrArg (Except.mapError _) (mapBoth_bind fun claim => ?_)).trans
    (mapError_mapBoth fun cause => rfl)
  rw [addClaim_relabel]
  exact mapError_mapBoth fun clash => rfl

end Naturality

section Shortening

/-- What is removed in front of names when a text is given for it: the text without the underscores
at its end and with one in their place, or nothing if only underscores are there. -/
def IsFrontOf (text : String) (front : Option String) : Prop :=
  ∃ core count, text.toList = core ++ List.replicate count '_' ∧ core.getLast? ≠ some '_' ∧
    front = if core = [] then none else some (String.ofList (core ++ ['_']))

/-- A name and what is left of it without a front text. -/
inductive Shortens : Option String → String → String → Prop where
  | noFront (name : String) : Shortens none name name
  | shorter (front rest : String) : Shortens (some front) (front ++ rest) rest
  | same (front name : String) (absent : ¬ front.toList <+: name.toList) :
      Shortens (some front) name name

/-- A declaration and the same one of a name without a front text. -/
def IsShortened (front : Option String) (declaration other : Declaration) : Prop :=
  ∃ name, Shortens front declaration.name name ∧ other = { declaration with name := name }

/-- A text has a core and some underscores at its end. -/
theorem exists_core (text : List Char) :
    ∃ core count, text = core ++ List.replicate count '_' ∧ core.getLast? ≠ some '_' := by
  induction text using List.reverseRecOn with
  | nil => exact ⟨[], 0, rfl, by simp⟩
  | append_singleton first last induction =>
      by_cases isUnderscore : last = '_'
      · obtain ⟨core, count, rfl, closed⟩ := induction
        refine ⟨core, count + 1, ?_, closed⟩
        rw [isUnderscore, List.replicate_succ', List.append_assoc]
      · exact ⟨first ++ [last], 0, by simp, by simpa using isUnderscore⟩

theorem dropWhile_reverse_append (text : List Char) (count : Nat) :
    (text ++ List.replicate count '_').reverse.dropWhile (· == '_') =
      text.reverse.dropWhile (· == '_') := by
  rw [List.reverse_append, List.reverse_replicate, List.dropWhile_append_of_pos]
  simp

theorem normalizePrefix?_of_core {text : String} {core : List Char} {count : Nat}
    (parts : text.toList = core ++ List.replicate count '_') (closed : core.getLast? ≠ some '_') :
    normalizePrefix? text = if core = [] then none else some (String.ofList (core ++ ['_'])) := by
  obtain ⟨reversed, rfl⟩ : ∃ reversed, core = List.reverse reversed :=
    ⟨_, core.reverse_reverse.symm⟩
  rw [normalizePrefix?, parts, dropWhile_reverse_append, List.reverse_reverse]
  rw [List.getLast?_reverse] at closed
  cases reversed with
  | nil => rfl
  | cons last rest =>
      rw [List.dropWhile_cons_of_neg (by simpa using closed), if_neg (by simp)]
      simp

theorem normalizePrefix?_eq_iff {text : String} {front : Option String} :
    normalizePrefix? text = front ↔ IsFrontOf text front := by
  constructor
  · intro normalized
    obtain ⟨core, count, parts, closed⟩ := exists_core text.toList
    have isFront := normalizePrefix?_of_core parts closed
    exact ⟨core, count, parts, closed, normalized.symm.trans isFront⟩
  · intro ⟨core, count, parts, closed, isFront⟩
    exact (normalizePrefix?_of_core parts closed).trans isFront.symm

theorem drop_front (front rest : String) :
    String.ofList ((front ++ rest).toList.drop front.length) = rest := by
  rw [String.toList_append, ← String.length_toList, List.drop_left, String.ofList_toList]

theorem stripFront_eq_iff {front : Option String} {name other : String} :
    stripFront front name = other ↔ Shortens front name other := by
  constructor
  · rintro rfl
    cases front with
    | none => exact .noFront name
    | some front =>
        rw [stripFront]
        split
        · next begins =>
            obtain ⟨rest, whole⟩ := List.isPrefixOf_iff_prefix.mp begins
            obtain rfl : name = front ++ String.ofList rest := by
              rw [← String.toList_inj, String.toList_append, String.toList_ofList, whole]
            rw [drop_front]
            exact .shorter front (String.ofList rest)
        · next absent => exact .same front name (by simpa using absent)
  · intro shortens
    cases shortens with
    | noFront name => rfl
    | shorter front rest => rw [stripFront, if_pos (by simp), drop_front]
    | same front name absent => simp [stripFront, absent]

end Shortening

/-- Causes of one kind, whatever they say. -/
def SameKind : Cause → Cause → Prop
  | .format _, .format _ | .duplicate _, .duplicate _ | .infer _, .infer _
  | .invalidName _ _, .invalidName _ _ | .conflict _ _, .conflict _ _
  | .render _ _, .render _ _ | .io _, .io _ => True
  | _, _ => False

theorem sameKind_relabel (rename : String → String) (cause : Cause) :
    SameKind cause (cause.relabel rename) := by
  cases cause <;> trivial

namespace Forest

variable {text : String} {front : Option String} {declarations others : List Declaration}

theorem build_relabel (isFront : normalizePrefix? text = front)
    (shortened : List.Forall₂ (IsShortened front) declarations others) :
    build others none =
      mapBoth (Diagnostic.relabel (stripFront front)) (Forest.relabel (stripFront front))
        (build declarations (some text)) := by
  have run : others.foldlM (Builder.add none) (Builder.empty.relabel (stripFront front)) =
      mapBoth (Diagnostic.relabel (stripFront front)) (Builder.relabel (stripFront front))
        (declarations.foldlM (Builder.add front) .empty) := by
    refine foldlM_mapBoth (fun builder declaration other isShortened => ?_) shortened Builder.empty
    obtain ⟨name, shortens, rfl⟩ := isShortened
    exact add_relabel (by rw [stripFront_eq_iff.mpr shortens])
  have start : Builder.empty.relabel (stripFront front) = .empty := rfl
  rw [start] at run
  rw [build, build, Option.bind_none, Option.bind_some, isFront, run]
  exact mapBoth_bind fun builder => rfl

/-- What a text in front of names does: the declarations have the configuration of the shortened
ones, but for the names of the variables, or fail where those do. -/
structure OnlyRelabels (text : String) (front : Option String)
    (declarations others : List Declaration) : Prop where
  succeeds : IsBuildable declarations (some text) ↔ IsBuildable others none
  forest : ∀ forest, build declarations (some text) = .ok forest →
    build others none = .ok (forest.relabel (stripFront front))
  /-- Variables have the full names. -/
  names : ∀ forest, build declarations (some text) = .ok forest →
    forest.leaves.Perm (declarations.map (leafIn front))
  failure : ∀ diagnostic, build declarations (some text) = .error diagnostic →
    ∃ other, build others none = .error other ∧ other = diagnostic.relabel (stripFront front) ∧
      other.line = diagnostic.line ∧ SameKind diagnostic.cause other.cause
  /-- How many underscores are at the end of the text makes no difference. -/
  trailing : ∀ start first second, text.toList = start ++ List.replicate first '_' →
    build declarations (some (String.ofList (start ++ List.replicate second '_'))) =
      build declarations (some text)

/-- A text in front of names only changes the labels of what is built. -/
theorem build_only_relabels (isFront : IsFrontOf text front)
    (shortened : List.Forall₂ (IsShortened front) declarations others) :
    OnlyRelabels text front declarations others := by
  have normalized := normalizePrefix?_eq_iff.mpr isFront
  have relabeled := build_relabel normalized shortened
  refine ⟨?_, ?_, ?_, ?_, ?_⟩
  · rw [IsBuildable, IsBuildable, relabeled]
    simp only [mapBoth, mapError_eq_ok_iff, map_eq_ok_iff]
    constructor
    · rintro ⟨forest, built⟩
      exact ⟨_, forest, built, rfl⟩
    · rintro ⟨_, forest, built, -⟩
      exact ⟨forest, built⟩
  · intro forest built
    rw [relabeled, built, mapBoth_ok]
  · intro forest built
    have permutation := leaves_perm_of_build built
    rwa [Option.bind_some, normalized] at permutation
  · intro diagnostic failed
    rw [failed] at relabeled
    exact ⟨_, relabeled, rfl, rfl, sameKind_relabel _ _⟩
  · intro start first second parts
    have same : normalizePrefix? (String.ofList (start ++ List.replicate second '_')) =
        normalizePrefix? text := by
      rw [normalizePrefix?, normalizePrefix?, parts, String.toList_ofList, dropWhile_reverse_append,
        dropWhile_reverse_append]
    rw [build, build, Option.bind_some, Option.bind_some, same]

/-- Names that begin with a front text and another underscore, with the front text alone, and
without it. -/
def fronted : List Declaration :=
  [⟨"P__A__B", "x", .string "x", 1⟩, ⟨"P_C", "3", .int 3, 2⟩, ⟨"A__D", "t", .bool true, 4⟩]

/-- The declarations `fronted` without the front text `P_`. -/
def unfronted : List Declaration :=
  [⟨"_A__B", "x", .string "x", 1⟩, ⟨"C", "3", .int 3, 2⟩, ⟨"A__D", "t", .bool true, 4⟩]

theorem build_only_relabels_fronted :
    IsBuildable fronted (some "P__") ∧ IsFrontOf "P__" (some "P_") ∧
      List.Forall₂ (IsShortened (some "P_")) fronted unfronted ∧
      OnlyRelabels "P__" (some "P_") fronted unfronted := by
  have isFront : IsFrontOf "P__" (some "P_") := ⟨['P'], 2, rfl, by decide, rfl⟩
  have first : IsShortened (some "P_") ⟨"P__A__B", "x", .string "x", 1⟩
      ⟨"_A__B", "x", .string "x", 1⟩ := ⟨_, .shorter "P_" "_A__B", rfl⟩
  have second : IsShortened (some "P_") ⟨"P_C", "3", .int 3, 2⟩ ⟨"C", "3", .int 3, 2⟩ :=
    ⟨_, .shorter "P_" "C", rfl⟩
  have third : IsShortened (some "P_") ⟨"A__D", "t", .bool true, 4⟩
      ⟨"A__D", "t", .bool true, 4⟩ := ⟨_, .same "P_" "A__D" (by decide), rfl⟩
  have shortened : List.Forall₂ (IsShortened (some "P_")) fronted unfronted :=
    .cons first (.cons second (.cons third .nil))
  exact ⟨⟨_, rfl⟩, isFront, shortened, build_only_relabels isFront shortened⟩

end Forest

end Config

end TypedEnv
