import TypedEnv.Proofs.Declaration.Concatenation
import TypedEnv.Proofs.Duration.RoundTrip
import TypedEnv.Proofs.Registry.OwnTexts
import TypedEnv.Proofs.Registry.Session

/-!
# Listings are read back

A listing is a declaration file with a line for each variable.  As a file it
has the names and the shown texts in order, and as an environment it gives a
new registry the values of the listed one, as far as these have a text that
their kind reads.
-/

namespace TypedEnv

namespace Declaration

def Blanks.empty : Blanks :=
  ⟨[], by simp⟩

/-- Nothing behind a value. -/
def Ending.bare : Ending :=
  ⟨.empty, none, by simp⟩

variable {quote : Char}

instance decidableEscaped (quote : Char) :
    ∀ (afterBackslash : Bool) (text : List Char), Decidable (Escaped quote afterBackslash text)
  | _, [] => isTrue trivial
  | _, c :: rest => @instDecidableAnd _ _ _ (decidableEscaped quote (c == '\\') rest)

theorem preceded_of_escaped {before text front back : List Char}
    (escaped : Escaped quote (before.getLast? == some '\\') text)
    (split : text = front ++ quote :: back) : (before ++ front).getLast? = some '\\' := by
  induction front generalizing before text with
  | nil =>
      subst split
      simpa using escaped.1 rfl
  | cons c rest induction =>
      subst split
      have behind :
          Escaped quote ((before ++ [c]).getLast? == some '\\') (rest ++ quote :: back) := by
        simpa using escaped.2
      simpa using induction behind rfl

theorem escaped_iff {text : List Char} : Escaped quote false text ↔
    ∀ front back, text = front ++ quote :: back → front.getLast? = some '\\' := by
  constructor
  · intro escaped front back split
    have escapedHere : Escaped quote (([] : List Char).getLast? == some '\\') text := escaped
    exact preceded_of_escaped escapedHere split
  · intro preceded
    have precededHere : ∀ front back, [] ++ text = front ++ quote :: back →
        front.getLast? = some '\\' := preceded
    exact escaped_of_preceded precededHere

end Declaration

namespace Variable

/-- The text that a listing shows for a variable: that of its value, or else of its default. -/
def shown (entry : Variable) : String :=
  if entry.value.render.isEmpty then entry.default else entry.value.render

/-- The line of a variable in a listing. -/
def shownLine (entry : Variable) : List Char :=
  entry.name.toList ++ ['='] ++ ('\x22' :: entry.shown.toList ++ '\x22' :: [])

/-- A name of the characters of names, and a shown text on one line in which every double
quotation mark comes right after a backslash. -/
structure IsListable (entry : Variable) : Prop where
  nameChars : ∀ c ∈ entry.name.toList, Declaration.isNameChar c = true
  oneLine : '\n' ∉ entry.shown.toList
  escaped : ∀ front back, entry.shown.toList = front ++ '\x22' :: back →
    front.getLast? = some '\\'

/-- A variable with the value of another, provided that this has a text and is no list with a
comma in an item. -/
def Restores (entry other : Variable) : Prop :=
  other.name = entry.name ∧
    (entry.value.render ≠ "" →
      (∀ items, entry.value = .stringList items → ∀ item ∈ items, ',' ∉ item.toList) →
      other.value = entry.value)

variable {entry : Variable}

theorem isListable_iff : entry.IsListable ↔
    entry.name.toList.all Declaration.isNameChar = true ∧ '\n' ∉ entry.shown.toList ∧
      Declaration.Escaped '\x22' false entry.shown.toList := by
  rw [Declaration.escaped_iff, List.all_eq_true]
  exact ⟨fun listable => ⟨listable.nameChars, listable.oneLine, listable.escaped⟩,
    fun ⟨nameChars, oneLine, escaped⟩ => ⟨nameChars, oneLine, escaped⟩⟩

instance : DecidablePred IsListable :=
  fun _ => decidable_of_iff' _ isListable_iff

theorem toList_dumpLine (entry : Variable) :
    entry.dumpLine.toList = entry.shownLine ++ '\n' :: [] := by
  simp [dumpLine, shownLine, shown, toString]

theorem getLast?_shownLine (entry : Variable) : entry.shownLine.getLast? = some '\x22' := by
  rw [shownLine, ← List.append_assoc, List.getLast?_concat]

theorem shown_of_ne (filled : entry.value.render ≠ "") : entry.shown = entry.value.render := by
  rw [shown, if_neg (by simpa using filled)]

/-- The name of a variable with the equals sign behind it. -/
def shownHead (entry : Variable) (listable : entry.IsListable) (named : entry.name ≠ "") :
    Declaration.Head where
  indent := .empty
  exported := none
  name := entry.name.toList
  separator := .equals .empty .empty
  blank_after_export := by simp
  name_ne_nil := by simpa using named
  name_chars := listable.nameChars

theorem shownLine_eq (listable : entry.IsListable) (named : entry.name ≠ "") :
    entry.shownLine = (entry.shownHead listable named).text ++
      ('\x22' :: entry.shown.toList ++ '\x22' :: Declaration.Ending.bare.text) := by
  simp [shownLine, shownHead, Declaration.Head.text, Declaration.Separator.text,
    Declaration.exportText_none, Declaration.Blanks.empty, Declaration.Ending.bare,
    Declaration.Ending.text, Declaration.Ending.commentText]

/-- A line of a listing declares the variable with its shown text. -/
theorem read_shownLine (listable : entry.IsListable) (named : entry.name ≠ "") :
    Declaration.LineContent.read entry.shownLine =
      .declares entry.name.toList entry.shown.toList := by
  have noComment : '\x22' ∉ Declaration.Ending.bare.commentText := by decide
  have value := Declaration.value?_quoted Declaration.Ending.bare (by decide) listable.escaped
    fun _ => noComment
  rw [Declaration.read_eq_declares_iff, shownLine_eq listable named,
    Declaration.readDeclaration?_head, List.cons_append,
    Text.trimStart_cons_of_not_blank (by decide), ← List.cons_append, value]
  rfl

end Variable

namespace Declaration

/-- Lines that are ended one by one are the lines of the whole text. -/
theorem lines_ended {parts : List (List Char)} (oneLine : ∀ part ∈ parts, '\n' ∉ part)
    (noReturn : ∀ part ∈ parts, part.getLast? ≠ some '\r') :
    lines (parts.flatMap fun part => part ++ '\n' :: []) = parts := by
  induction parts with
  | nil => rfl
  | cons part rest induction =>
      rw [List.forall_mem_cons] at oneLine noReturn
      rw [List.flatMap_cons, List.append_assoc, List.cons_append, List.nil_append,
        lines_append_break, List.splitOn_eq_singleton oneLine.1, induction oneLine.2 noReturn.2]
      simp [closedLine, noReturn.1]

end Declaration

section Reading

variable {entries : List Variable} {raws : List Declaration.RawDeclaration}

/-- The lines of variables with different names are read one by one. -/
theorem Declaration.readLines_shownLine (seen : List String) (number : Nat)
    (distinct : (entries.map Variable.name).Nodup) (fresh : ∀ entry ∈ entries, entry.name ∉ seen)
    (listable : ∀ entry ∈ entries, entry.IsListable) (named : ∀ entry ∈ entries, entry.name ≠ "") :
    ∃ raws, readLines .ok seen number (entries.map Variable.shownLine) = .ok raws ∧
      raws.map (fun raw => (raw.name, raw.raw)) =
        entries.map fun entry => (entry.name, entry.shown) := by
  induction entries generalizing seen number with
  | nil => exact ⟨[], rfl, rfl⟩
  | cons entry rest induction =>
      rw [List.forall_mem_cons] at fresh listable named
      rw [List.map_cons, List.nodup_cons] at distinct
      have others : ∀ other ∈ rest, other.name ∉ entry.name :: seen := by
        intro other member repeated
        rcases List.mem_cons.mp repeated with same | taken
        · exact distinct.1 (same ▸ List.mem_map_of_mem member)
        · exact fresh.2 other member taken
      obtain ⟨raws, reads, same⟩ := induction _ (number + 1) distinct.2 others listable.2 named.2
      have read := Variable.read_shownLine listable.1 named.1
      have free : String.ofList entry.name.toList ∉ seen := by simpa using fresh.1
      refine ⟨⟨entry.name, entry.shown, number⟩ :: raws, ?_, ?_⟩
      · rw [List.map_cons, readLines_of_fresh _ read free, String.ofList_toList,
          String.ofList_toList, reads]
        rfl
      · rw [List.map_cons, List.map_cons, same]

theorem Registry.lines_dump {registry : Registry}
    (listable : ∀ entry ∈ registry.entries, entry.IsListable) :
    Declaration.lines registry.dump.toList = registry.entries.map Variable.shownLine := by
  have written : registry.dump.toList =
      (registry.entries.map Variable.shownLine).flatMap fun line => line ++ '\n' :: [] := by
    rw [dump, String.toList_join, List.flatMap_map, List.flatMap_map]
    exact List.flatMap_congr fun entry _ => entry.toList_dumpLine
  rw [written]
  apply Declaration.lines_ended
  · intro line member inLine
    obtain ⟨entry, isEntry, rfl⟩ := List.mem_map.mp member
    have inName : '\n' ∉ entry.name.toList := fun inside =>
      absurd ((listable entry isEntry).nameChars _ inside) (by decide)
    simp [Variable.shownLine, inName, (listable entry isEntry).oneLine] at inLine
  · intro line member
    obtain ⟨entry, -, rfl⟩ := List.mem_map.mp member
    rw [entry.getLast?_shownLine]
    decide

/-- What is read of a listing gives every variable the text that is shown for it. -/
theorem environmentOf_shown (distinct : (entries.map Variable.name).Nodup)
    (same : raws.map (fun raw => (raw.name, raw.raw)) =
      entries.map fun entry => (entry.name, entry.shown)) :
    ∀ entry ∈ entries, environmentOf raws entry.name = some entry.shown := by
  intro entry member
  have names : (raws.map Declaration.RawDeclaration.name).Nodup := by
    have sameNames := congrArg (List.map Prod.fst) same
    rw [List.map_map, List.map_map] at sameNames
    exact sameNames ▸ distinct
  have isShown : (entry.name, entry.shown) ∈ raws.map fun raw => (raw.name, raw.raw) := by
    rw [same]
    exact List.mem_map_of_mem member
  obtain ⟨raw, isRaw, pair⟩ := List.mem_map.mp isShown
  obtain ⟨sameName, sameText⟩ := Prod.mk.inj pair
  rw [environmentOf, ← sameName, find?_eq_some_of_mem names isRaw, ← sameText]
  rfl

end Reading

section Restoring

/-- Only strings, addresses and lists may have no text. -/
theorem Value.render_ne_empty {value : Value} (noUrl : value.kind ≠ .url)
    (noString : value.kind ≠ .string) (noList : value.kind ≠ .stringList) :
    value.render ≠ "" := by
  cases value with
  | int number => exact ne_empty_of_reads (Decimal.int64?_intText number) rfl
  | uint number => exact ne_empty_of_reads (Decimal.uint64?_natText number) rfl
  | float number =>
      have reads : Decimal.Binary64.ofText? number.render.toList = some number := by
        rw [Decimal.Binary64.render, String.toList_ofList, Decimal.Binary64.ofText?_text]
      exact ne_empty_of_reads reads rfl
  | bool truth => cases truth <;> decide
  | duration span =>
      intro nothing
      obtain ⟨amount, letter, -, rest, written⟩ := span.exists_toList_render
      rw [show span.render = "" from nothing] at written
      simp at written
  | string text => exact absurd rfl noString
  | url address => exact absurd rfl noUrl
  | stringList items => exact absurd rfl noList

/-- A value other than an address is read from its text, if it has one and no item of a list has
a comma. -/
theorem Value.parseAs_own_text {value : Value} (noUrl : value.kind ≠ .url)
    (filled : value.render ≠ "")
    (noComma : ∀ items, value = .stringList items → ∀ item ∈ items, ',' ∉ item.toList) :
    parseAs value.kind value.render = .ok value := by
  cases value with
  | duration span =>
      rw [kind, parseAs, render, span.read?_render]
      rfl
  | url address => exact absurd rfl noUrl
  | stringList items =>
      have nonempty : items ≠ [] := by
        rintro rfl
        exact filled rfl
      exact parseAs_stringList_render nonempty (noComma items rfl)
  | _ => exact parseAs_render (by simp [IsPlain, kind])

variable {entry other : Variable}

/-- Strings and lists are read from any text, and values of the other kinds have a text. -/
theorem Variable.exists_parseAs_shown (noUrl : entry.value.kind ≠ .url) :
    ∃ value, parseAs entry.value.kind entry.shown = .ok value := by
  by_cases isString : entry.value.kind = .string
  · rw [isString]
    exact ⟨_, rfl⟩
  · by_cases isList : entry.value.kind = .stringList
    · rw [isList]
      exact ⟨_, rfl⟩
    · have filled : entry.value.render ≠ "" := Value.render_ne_empty noUrl isString isList
      have noItems : ∀ items, entry.value ≠ .stringList items := by
        intro items same
        rw [same] at isList
        exact isList rfl
      rw [shown_of_ne filled]
      exact ⟨_, Value.parseAs_own_text noUrl filled fun items same => absurd same (noItems items)⟩

/-- The shown text of a variable sets another one of its name and kind. -/
theorem Variable.exists_set_shown (sameName : other.name = entry.name)
    (sameKind : other.value.kind = entry.value.kind) (noUrl : entry.value.kind ≠ .url) :
    ∃ changed, other.set entry.shown = .ok changed ∧ entry.Restores changed := by
  obtain ⟨value, reads⟩ := exists_parseAs_shown noUrl
  by_cases unset : other.value.kind = .stringList ∧ entry.shown.isEmpty = true
  · refine ⟨other, by rw [set, if_pos unset], sameName, ?_⟩
    intro filled
    have nothing := unset.2
    rw [shown_of_ne filled, String.isEmpty_iff] at nothing
    exact absurd nothing filled
  · refine ⟨{ other with value }, ?_, sameName, ?_⟩
    · rw [set, if_neg unset, sameKind, reads]
      rfl
    · intro filled noComma
      rw [shown_of_ne filled, Value.parseAs_own_text noUrl filled noComma] at reads
      exact (Except.ok.inj reads).symm

/-- An environment of shown texts applies to variables of the same names and kinds. -/
theorem exists_overlay_shown {environment : Environment} {entries others : List Variable}
    (alike : List.Forall₂ (fun entry other => other.name = entry.name ∧
      other.value.kind = entry.value.kind) entries others)
    (shown : ∀ entry ∈ entries, environment entry.name = some entry.shown)
    (noUrl : ∀ entry ∈ entries, entry.value.kind ≠ .url) :
    ∃ results, overlayVariables environment others = (results, none) ∧
      List.Forall₂ Variable.Restores entries results := by
  simp only [overlayVariables_eq_none_iff]
  induction alike with
  | nil => exact ⟨[], .nil, .nil⟩
  | @cons entry other entries others same rest induction =>
      rw [List.forall_mem_cons] at shown noUrl
      obtain ⟨changed, set, restores⟩ := Variable.exists_set_shown same.1 same.2 noUrl.1
      obtain ⟨results, applied, restored⟩ := induction shown.2 noUrl.2
      have found : environment other.name = some entry.shown := same.1 ▸ shown.1
      have first : other.override environment = .ok changed := by
        rw [Variable.override_of_some found, set]
      exact ⟨changed :: results, .cons first applied, .cons restores restored⟩

end Restoring

namespace Registry

variable {registry : Registry} {requests : List Request} {exchanges : List Exchange}

/-- A registry of a session has the names and kinds that the requests declare. -/
theorem alike_declared (served : empty.serve? requests = some (registry, exchanges)) :
    List.Forall₂ (fun entry other : Variable => other.name = entry.name ∧
      other.value.kind = entry.value.kind) registry.entries
        (empty.extend (Request.declared [] requests)).entries := by
  have kept : SessionKept empty requests registry exchanges := .of_serve? served
  have names : registry.names = (Request.declared [] requests).map Prod.fst := by
    rw [← map_fst_profiles, kept.profiles, List.map_append, List.map_map]
    rfl
  have distinct : ((Request.declared [] requests).map Prod.fst).Nodup :=
    names ▸ registry.names_nodup
  have same : registry.entries.map Variable.profile =
      (empty.extend (Request.declared [] requests)).entries.map Variable.profile := by
    rw [entries_extend_empty distinct, List.map_map]
    exact kept.profiles
  rw [← List.forall₂_eq_eq_eq, List.forall₂_map_left_iff, List.forall₂_map_right_iff] at same
  refine same.imp ?_
  intro entry other profile
  obtain ⟨name, rest⟩ := Prod.mk.inj profile
  exact ⟨name.symm, (Prod.mk.inj rest).1.symm⟩

/-- The listing of a registry is read as the names and shown texts of its variables, in order.
Without an address among them, a new registry with the same variables takes these texts, and every
variable gets the listed value back, if that has a text and is no list with a comma in an item. -/
theorem dump_reads_back (served : empty.serve? requests = some (registry, exchanges))
    (named : ∀ entry ∈ registry.entries, entry.name ≠ "")
    (listable : ∀ entry ∈ registry.entries, entry.IsListable) :
    ∃ raws, Declaration.readRaw registry.dump = .ok raws ∧
      raws.map (fun raw => (raw.name, raw.raw)) =
        registry.entries.map (fun entry => (entry.name, entry.shown)) ∧
      ((∀ entry ∈ registry.entries, entry.value.kind ≠ .url) →
        ∃ reloaded, (empty.extend (Request.declared [] requests)).start (environmentOf raws) =
            .continues reloaded none ∧
          List.Forall₂ Variable.Restores registry.entries reloaded.entries) := by
  obtain ⟨raws, reads, same⟩ := Declaration.readLines_shownLine [] 1 registry.distinct
    (fun _ _ => List.not_mem_nil) listable named
  refine ⟨raws, ?_, same, ?_⟩
  · rw [Declaration.readRaw, lines_dump listable]
    exact reads
  · intro noUrl
    have shown := environmentOf_shown registry.distinct same
    obtain ⟨results, applied, restored⟩ :=
      exists_overlay_shown (alike_declared served) shown noUrl
    obtain ⟨distinct, overlaid⟩ := overlay_eq applied
    refine ⟨⟨results, true, false, distinct⟩, ?_, restored⟩
    rw [start_of_quiet rfl, overlaid]
    rfl

/-- A name is never empty in a declaration file, but it may be in a registry. -/
theorem readRaw_dump_emptyName : ∃ registry exchanges,
    empty.serve? [.declare "" (.string "x") false] = some (registry, exchanges) ∧
      (∀ entry ∈ registry.entries, entry.IsListable) ∧ registry.dump = "=\x22x\x22\n" ∧
        Declaration.readRaw registry.dump =
          .error (.error (.atLine 1 (.format "=\x22x\x22"))) :=
  ⟨_, _, rfl, by decide +kernel, by decide +kernel, by decide +kernel⟩

/-- Requests that leave a list and a string without text, and texts with marks and blanks. -/
def listedRequests : List Request :=
  [.declare "export" (.string "a # 'b' = \r") false, .declare "n.1" (.float .nan) false,
    .declare "E" (.string "x\\\x22y\\") true, .declare "L" (.stringList ["a ", "", "#"]) true,
    .declare "D" (.duration ⟨90, 1, by decide, by decide⟩) false,
    .declare "N" (.stringList []) false, .declare "I" (.int 7) false, .set "E" "", .set "I" "-0x10"]

/-- The variables of `listedRequests`. -/
def listedRegistry : Registry :=
  ⟨[⟨"export", .string "a # 'b' = \r", "a # 'b' = \r"⟩, ⟨"n.1", .float .nan, "NaN"⟩,
    ⟨"E", .string "", "x\\\x22y\\"⟩, ⟨"L", .stringList ["a ", "", "#"], "a ,,#"⟩,
    ⟨"D", .duration ⟨90, 1, by decide, by decide⟩, "1m30s1ns"⟩, ⟨"N", .stringList [], ""⟩,
    ⟨"I", .int (-16), "7"⟩], false, false, by decide⟩

theorem dump_reads_back_listedRegistry : ∃ exchanges,
    empty.serve? listedRequests = some (listedRegistry, exchanges) ∧
      (∀ entry ∈ listedRegistry.entries, entry.name ≠ "") ∧
      (∀ entry ∈ listedRegistry.entries, entry.IsListable) ∧
      (∀ entry ∈ listedRegistry.entries, entry.value.kind ≠ .url) ∧
      ∃ raws reloaded, Declaration.readRaw listedRegistry.dump = .ok raws ∧
        raws.map (fun raw => (raw.name, raw.raw)) =
          listedRegistry.entries.map (fun entry => (entry.name, entry.shown)) ∧
        (empty.extend (Request.declared [] listedRequests)).start (environmentOf raws) =
          .continues reloaded none ∧
        List.Forall₂ Variable.Restores listedRegistry.entries reloaded.entries := by
  have answered : (empty.serve? listedRequests).map Prod.fst = some listedRegistry := by
    decide +kernel
  have named : ∀ entry ∈ listedRegistry.entries, entry.name ≠ "" := by decide
  have listable : ∀ entry ∈ listedRegistry.entries, entry.IsListable := by decide +kernel
  have noUrl : ∀ entry ∈ listedRegistry.entries, entry.value.kind ≠ .url := by decide
  obtain ⟨⟨registry, exchanges⟩, served, same⟩ := Option.map_eq_some_iff.mp answered
  obtain rfl : registry = listedRegistry := same
  obtain ⟨raws, reads, texts, restore⟩ := dump_reads_back served named listable
  obtain ⟨reloaded, started, restored⟩ := restore noUrl
  exact ⟨exchanges, served, named, listable, noUrl, raws, reloaded, reads, texts, started, restored⟩

end Registry

end TypedEnv
