import TypedEnv.Proofs.Registry.Overlay
import TypedEnv.Proofs.Registry.Variables
import TypedEnv.Registry.Session

/-!
# What a session keeps

Which variables a session registers follows from its requests alone: of each
registration those before the first repeated name.  Whatever else happens,
every variable keeps its place, its kind and the text of its default, failed
requests do not disturb it, and every handle that was returned can be read.
-/

namespace TypedEnv

namespace Request

/-- The variables that a request would register, with their defaults. -/
def defaults : Request → List (String × Value)
  | .declare name default _ => [(name, default)]
  | .register declarations => declarations.map Declaration.entry
  | _ => []

/-- The handles that a request returns unless it fails. -/
def handles : Request → List Handle
  | .declare name default untyped => [⟨name, if untyped then .any else .exactly default.kind⟩]
  | .register declarations => declarations.map fun declaration => ⟨declaration.name, .any⟩
  | _ => []

/-- The variables that requests register in order, when some names are taken before them. -/
def declared (taken : List String) : List Request → List (String × Value)
  | [] => []
  | request :: rest =>
      let fresh := untaken taken request.defaults
      fresh ++ declared (taken ++ fresh.map Prod.fst) rest

/-- Whether the listing is on after a request. -/
def dumpsAfter (dumps : Bool) : Request → Bool
  | .setDump dumps => dumps
  | _ => dumps

/-- Whether the listing is off whenever one of the requests applies an environment. -/
def areQuiet (dumps : Bool) : List Request → Bool
  | [] => true
  | .parse _ :: rest => !dumps && areQuiet dumps rest
  | request :: rest => areQuiet (request.dumpsAfter dumps) rest

end Request

namespace Exchange

/-- The exchange applied an environment without an error. -/
def Parses (exchange : Exchange) : Prop :=
  (∃ environment, exchange.request = .parse environment) ∧ exchange.response.ending = .ok ()

/-- A failed request leaves the registry as it was.  Only a list of declarations registers those
before the first whose name is taken, and an environment that was applied in part has no such
promise. -/
def IsContained (exchange : Exchange) (failure : Failure EnvError) : Prop :=
  match exchange.request with
  | .parse _ => True
  | .declare name _ _ =>
      failure = .abort (.redefined name) ∧ name ∈ exchange.before.names ∧
        exchange.response.registry = exchange.before
  | .register declarations =>
      ∃ registered repeated rest, declarations = registered ++ repeated :: rest ∧
        (exchange.before.names ++ registered.map Declaration.name).Nodup ∧
        repeated.name ∈ exchange.before.names ++ registered.map Declaration.name ∧
        failure = .abort (.redefined repeated.name) ∧
        exchange.response.registry =
          exchange.before.extend (registered.map Declaration.entry)
  | .set _ _ | .setDump _ => exchange.response.registry = exchange.before

end Exchange

/-- What a session keeps, given its first and its last registry, its requests and its
exchanges. -/
structure SessionKept (first : Registry) (requests : List Request) (last : Registry)
    (exchanges : List Exchange) : Prop where
  answered : exchanges.map Exchange.request = requests
  distinct : last.names.Nodup
  profiles : last.profiles = first.profiles ++
    (Request.declared first.names requests).map fun entry => entry.2.profile entry.1
  stable : ∀ exchange ∈ exchanges, exchange.before.profiles <+: last.profiles
  parsed : last.parsed = true ↔
    first.parsed = true ∨ ∃ exchange ∈ exchanges, exchange.Parses
  contained : ∀ exchange ∈ exchanges, ∀ failure,
    exchange.response.ending = .error failure → exchange.IsContained failure
  handles : ∀ exchange ∈ exchanges,
    exchange.response.ending = .ok () → exchange.response.handles = exchange.request.handles
  readable : ∀ exchange ∈ exchanges, ∀ handle ∈ exchange.response.handles,
    ∃ entry ∈ last.entries, entry.name = handle.name ∧ last.get handle = .ok entry.value

namespace Registry

/-- The responses that a registry gives to requests while the listing is off or fails. -/
inductive Answers (registry : Registry) : Request → Response → Prop where
  | registered {name : String} {default : Value} {untyped : Bool} (fresh : name ∉ registry.names) :
      Answers registry (.declare name default untyped)
        ⟨registry.extend [(name, default)],
          [⟨name, if untyped then .any else .exactly default.kind⟩], .ok ()⟩
  | redefined {name : String} {default : Value} {untyped : Bool} (taken : name ∈ registry.names) :
      Answers registry (.declare name default untyped)
        ⟨registry, [], .error (.abort (.redefined name))⟩
  | registeredAll {declarations : List Declaration}
      (fresh : untaken registry.names (declarations.map Declaration.entry) =
        declarations.map Declaration.entry) :
      Answers registry (.register declarations)
        ⟨registry.extend (declarations.map Declaration.entry),
          declarations.map fun declaration => ⟨declaration.name, .any⟩, .ok ()⟩
  | stopped {before after : List Declaration} {repeated : Declaration}
      (untakenAll : untaken registry.names ((before ++ repeated :: after).map Declaration.entry) =
        before.map Declaration.entry)
      (fresh : untaken registry.names (before.map Declaration.entry) =
        before.map Declaration.entry)
      (taken : repeated.name ∈ registry.names ++ before.map Declaration.name) :
      Answers registry (.register (before ++ repeated :: after))
        ⟨registry.extend (before.map Declaration.entry), [],
          .error (.abort (.redefined repeated.name))⟩
  | set {name text : String} {changed : Registry} (success : registry.set name text = .ok changed) :
      Answers registry (.set name text) ⟨changed, [], .ok ()⟩
  | notSet {name text : String} {failure : Failure EnvError} :
      Answers registry (.set name text) ⟨registry, [], .error failure⟩
  | parsed {environment : Environment} (success : (registry.overlay environment).2 = none) :
      Answers registry (.parse environment) ⟨(registry.overlay environment).1, [], .ok ()⟩
  | notParsed {environment : Environment} {failure : Failure EnvError}
      (failed : (registry.overlay environment).2 = some failure) :
      Answers registry (.parse environment)
        ⟨(registry.overlay environment).1, [], .error failure⟩
  | setDump {dumps : Bool} :
      Answers registry (.setDump dumps) ⟨{ registry with dumps }, [], .ok ()⟩

section Responding

variable {registry : Registry} {request : Request} {response : Response}

theorem answers_of_respond? (answered : registry.respond? request = some response) :
    registry.Answers request response := by
  cases request with
  | declare name default untyped =>
      rw [respond?, declare_eq] at answered
      by_cases taken : name ∈ registry.names
      · rw [if_pos taken] at answered
        cases answered
        exact .redefined taken
      · rw [if_neg taken] at answered
        cases answered
        exact .registered taken
  | register declarations =>
      obtain ⟨before, after, rfl, fresh, untakenAll, next⟩ :=
        exists_untaken registry.names declarations
      cases after with
      | nil =>
          rw [List.append_nil] at answered ⊢
          rw [respond?, registerAll_of_untaken fresh] at answered
          cases answered
          exact .registeredAll fresh
      | cons repeated after =>
          have taken := next repeated rfl
          rw [respond?, registerAll_of_repeated after fresh taken] at answered
          cases answered
          exact .stopped untakenAll fresh taken
  | set name text =>
      rw [respond?] at answered
      cases success : registry.set name text with
      | ok changed =>
          rw [success] at answered
          cases answered
          exact .set success
      | error failure =>
          rw [success] at answered
          cases answered
          exact .notSet
  | parse environment =>
      rw [respond?, start_eq] at answered
      by_cases listing : registry.dumps = true ∧ (registry.overlay environment).2 = none
      · rw [if_pos listing] at answered
        cases answered
      · rw [if_neg listing] at answered
        cases ending : (registry.overlay environment).2 with
        | none =>
            rw [ending] at answered
            cases answered
            exact .parsed ending
        | some failure =>
            rw [ending] at answered
            cases answered
            exact .notParsed ending
  | setDump dumps =>
      cases answered
      exact .setDump

/-- A response registers the untaken variables of the request and keeps all profiles. -/
theorem Answers.profiles (answers : registry.Answers request response) :
    response.registry.profiles = registry.profiles ++
      (untaken registry.names request.defaults).map fun entry => entry.2.profile entry.1 := by
  cases answers with
  | registered fresh => rw [Request.defaults, profiles_extend]
  | redefined taken => simp [Request.defaults, untaken, taken]
  | registeredAll fresh => rw [Request.defaults, profiles_extend]
  | stopped untakenAll fresh taken =>
      rw [Request.defaults, untakenAll, profiles_extend, fresh]
  | set success => simpa [Request.defaults, untaken] using profiles_of_set success
  | notSet => simp [Request.defaults, untaken]
  | parsed success => simpa [Request.defaults, untaken] using profiles_of_overlay registry _
  | notParsed failed => simpa [Request.defaults, untaken] using profiles_of_overlay registry _
  | setDump => simp [Request.defaults, untaken, Registry.profiles]

theorem Answers.names (answers : registry.Answers request response) :
    response.registry.names =
      registry.names ++ (untaken registry.names request.defaults).map Prod.fst := by
  rw [← map_fst_profiles, answers.profiles, List.map_append, map_fst_profiles, List.map_map]
  rfl

/-- Only an environment that is applied without an error changes the state. -/
theorem Answers.parsed_iff (answers : registry.Answers request response) :
    response.registry.parsed = true ↔
      registry.parsed = true ∨ Exchange.Parses ⟨request, registry, response⟩ := by
  cases answers with
  | parsed success => simp [Exchange.Parses, parsed_overlay, success]
  | notParsed failed => simp [Exchange.Parses, parsed_overlay, failed]
  | set success => simp [Exchange.Parses, (parsed_of_set success).1]
  | _ => simp [Exchange.Parses, extend]

theorem Answers.isContained {failure : Failure EnvError}
    (answers : registry.Answers request response)
    (failed : response.ending = .error failure) :
    Exchange.IsContained ⟨request, registry, response⟩ failure := by
  cases answers with
  | redefined taken =>
      cases failed
      exact ⟨rfl, taken, rfl⟩
  | @stopped before after repeated untakenAll fresh taken =>
      cases failed
      have names := nodup_append_untaken (before.map Declaration.entry) registry.names_nodup
      rw [fresh, List.map_map] at names
      exact ⟨before, repeated, after, rfl, names, taken, rfl, rfl⟩
  | notSet => rfl
  | notParsed failed => trivial
  | registered fresh => cases failed
  | registeredAll fresh => cases failed
  | set success => cases failed
  | parsed success => cases failed
  | setDump => cases failed

theorem Answers.handles (answers : registry.Answers request response)
    (succeeded : response.ending = .ok ()) : response.handles = request.handles := by
  cases answers with
  | redefined taken => cases succeeded
  | stopped untakenAll fresh taken => cases succeeded
  | notSet => cases succeeded
  | notParsed failed => cases succeeded
  | _ => rfl

/-- The handles of a response belong to variables with the type in which they are read. -/
theorem Answers.readable (answers : registry.Answers request response) :
    ∀ handle ∈ response.handles, ∃ kind text,
      (handle.name, kind, text) ∈ response.registry.profiles ∧
        (handle.type = .any ∨ handle.type = .exactly kind) := by
  cases answers with
  | @registered name default untyped fresh =>
      intro handle member
      obtain rfl := List.mem_singleton.mp member
      refine ⟨default.kind, default.render, by simp [untaken, fresh, Value.profile], ?_⟩
      cases untyped <;> simp
  | @registeredAll declarations fresh =>
      intro handle member
      obtain ⟨declaration, isDeclaration, rfl⟩ := List.mem_map.mp member
      refine ⟨declaration.value.kind, declaration.value.render, ?_, .inl rfl⟩
      rw [profiles_extend, fresh, List.mem_append]
      exact .inr (List.mem_map_of_mem (List.mem_map_of_mem isDeclaration))
  | _ => simp

theorem Answers.dumps (answers : registry.Answers request response) :
    response.registry.dumps = request.dumpsAfter registry.dumps := by
  cases answers with
  | set success => exact (parsed_of_set success).2
  | _ => rfl

/-- Only an environment that is applied while the listing is on may end the program. -/
theorem exists_response (registry : Registry) (request : Request)
    (quiet : registry.dumps = true → ∀ environment, request ≠ .parse environment) :
    ∃ response, registry.respond? request = some response := by
  cases request with
  | declare name default untyped =>
      rw [respond?]
      split <;> exact ⟨_, rfl⟩
  | register declarations =>
      rw [respond?]
      split <;> exact ⟨_, rfl⟩
  | set name text =>
      rw [respond?]
      split <;> exact ⟨_, rfl⟩
  | parse environment =>
      have off : registry.dumps = false := by
        cases on : registry.dumps with
        | true => exact absurd rfl (quiet on environment)
        | false => rfl
      rw [respond?, start_of_quiet off]
      cases (registry.overlay environment).2 <;> exact ⟨_, rfl⟩
  | setDump dumps => exact ⟨_, rfl⟩

end Responding

section Serving

variable {first last : Registry} {request : Request} {requests : List Request}
  {response : Response} {exchanges : List Exchange}

/-- Quiet requests are all answered. -/
theorem exists_serve? (quiet : Request.areQuiet first.dumps requests = true) :
    ∃ last exchanges, first.serve? requests = some (last, exchanges) := by
  induction requests generalizing first with
  | nil => exact ⟨first, [], rfl⟩
  | cons request rest induction =>
      have quietRequest : first.dumps = true → ∀ environment, request ≠ .parse environment := by
        rintro on environment rfl
        simp [Request.areQuiet, on] at quiet
      have quietRest : Request.areQuiet (request.dumpsAfter first.dumps) rest = true := by
        cases request with
        | parse environment =>
            rw [Request.areQuiet, Bool.and_eq_true] at quiet
            exact quiet.2
        | _ => exact quiet
      obtain ⟨response, answered⟩ := first.exists_response request quietRequest
      rw [← (answers_of_respond? answered).dumps] at quietRest
      obtain ⟨last, exchanges, served⟩ := induction quietRest
      exact ⟨last, ⟨request, first, response⟩ :: exchanges, by simp [serve?, answered, served]⟩

end Serving

end Registry

namespace SessionKept

variable {first last : Registry} {request : Request} {requests : List Request}
  {response : Response} {exchanges : List Exchange}

theorem nil : SessionKept first [] first [] where
  answered := rfl
  distinct := first.names_nodup
  profiles := by simp [Request.declared]
  stable := by simp
  parsed := by simp
  contained := by simp
  handles := by simp
  readable := by simp

/-- A session that begins with a response and is kept from there on is kept as a whole. -/
theorem cons (answers : first.Answers request response)
    (kept : SessionKept response.registry requests last exchanges) :
    SessionKept first (request :: requests) last
      (⟨request, first, response⟩ :: exchanges) where
  answered := by rw [List.map_cons, kept.answered]
  distinct := kept.distinct
  profiles := by
    rw [kept.profiles, answers.profiles, answers.names, Request.declared, List.map_append,
      List.append_assoc]
  stable := by
    intro exchange member
    rcases List.mem_cons.mp member with rfl | inRest
    · rw [kept.profiles, answers.profiles, List.append_assoc]
      exact List.prefix_append _ _
    · exact kept.stable exchange inRest
  parsed := by
    rw [kept.parsed, answers.parsed_iff, or_assoc, List.exists_mem_cons_iff]
  contained := by
    intro exchange member failure failed
    rcases List.mem_cons.mp member with rfl | inRest
    · exact answers.isContained failed
    · exact kept.contained exchange inRest failure failed
  handles := by
    intro exchange member succeeded
    rcases List.mem_cons.mp member with rfl | inRest
    · exact answers.handles succeeded
    · exact kept.handles exchange inRest succeeded
  readable := by
    intro exchange member handle isHandle
    rcases List.mem_cons.mp member with rfl | inRest
    · obtain ⟨kind, text, isProfile, type⟩ := answers.readable handle isHandle
      have stays : (handle.name, kind, text) ∈ last.profiles :=
        kept.profiles ▸ List.mem_append_left _ isProfile
      exact Registry.get_of_mem_profiles stays type
    · exact kept.readable exchange inRest handle isHandle

theorem of_serve? (served : first.serve? requests = some (last, exchanges)) :
    SessionKept first requests last exchanges := by
  induction requests generalizing first exchanges with
  | nil =>
      cases served
      exact nil
  | cons request rest induction =>
      simp only [Registry.serve?, Option.bind_eq_bind, Option.bind_eq_some_iff, Option.pure_def,
        Option.some.injEq, Prod.mk.injEq, Prod.exists] at served
      obtain ⟨response, answered, last, others, servedRest, rfl, rfl⟩ := served
      exact cons (Registry.answers_of_respond? answered) (induction servedRest)

end SessionKept

/-- A session with a new registry in which the listing is off whenever an environment is applied
answers all requests, and keeps its variables. -/
theorem Registry.serve?_keeps_variables (requests : List Request)
    (quiet : Request.areQuiet false requests = true) :
    ∃ last exchanges, Registry.empty.serve? requests = some (last, exchanges) ∧
      SessionKept .empty requests last exchanges := by
  have quietEmpty : Request.areQuiet Registry.empty.dumps requests = true := quiet
  obtain ⟨last, exchanges, served⟩ := Registry.exists_serve? quietEmpty
  exact ⟨last, exchanges, served, .of_serve? served⟩

/-- Requests that register, set and apply with and without success. -/
def mixedRequests : List Request :=
  [.declare "A" (.uint 1) false,
    .register [⟨"B", "x", .string "x", 1⟩, ⟨"A", "2", .int 2, 2⟩, ⟨"C", "", .string "", 3⟩],
    .setDump true, .declare "L" (.stringList ["a", "b"]) true, .set "L" "", .set "A" "-3",
    .setDump false, .parse fun name => if name = "B" then none else some "?",
    .parse fun name => if name = "A" then some "7" else none, .declare "A" (.bool true) false]

theorem Registry.serve?_keeps_mixedRequests :
    Request.areQuiet false mixedRequests = true ∧
      ∃ last exchanges, Registry.empty.serve? mixedRequests = some (last, exchanges) ∧
        SessionKept .empty mixedRequests last exchanges :=
  ⟨rfl, Registry.serve?_keeps_variables mixedRequests rfl⟩

end TypedEnv
