import TypedEnv.Declaration.File
import TypedEnv.Registry.Startup

/-!
# Sessions

A program works with a registry by a sequence of requests: it registers
variables, alone or by declarations, sets them, applies environments, and
switches the listing on and off.  A request may fail or stop; a program that
catches this goes on with the registry as it is then.  `Registry.serve` answers
requests in order and keeps every exchange.
-/

namespace TypedEnv

/-- What a program asks of a registry. -/
inductive Request where
  /-- Registers a variable that is read in the type of its default or, untyped, as any value. -/
  | declare (name : String) (default : Value) (untyped : Bool)
  | register (declarations : List Declaration)
  | set (name text : String)
  | parse (environment : Environment)
  | setDump (dumps : Bool)

/-- What a request leads to: the registry after it, the handles that it returns, and how it
ends. -/
structure Response where
  registry : Registry
  handles : List Handle
  ending : Outcome EnvError Unit

/-- A request with the registry to which it was made and the response. -/
structure Exchange where
  request : Request
  before : Registry
  response : Response

namespace Registry

/-- Answers a request, or nothing when the request ends the program after a listing. -/
def respond? (registry : Registry) : Request → Option Response
  | .declare name default untyped =>
      match registry.declare name default with
      | .ok changed =>
          some ⟨changed, [⟨name, if untyped then .any else .exactly default.kind⟩], .ok ()⟩
      | .error reason => some ⟨registry, [], .error (.abort reason)⟩
  | .register declarations =>
      match registry.registerAll declarations with
      | (changed, .ok handles) => some ⟨changed, handles, .ok ()⟩
      | (changed, .error reason) => some ⟨changed, [], .error (.abort reason)⟩
  | .set name text =>
      match registry.set name text with
      | .ok changed => some ⟨changed, [], .ok ()⟩
      | .error failure => some ⟨registry, [], .error failure⟩
  | .parse environment =>
      match registry.start environment with
      | .continues changed none => some ⟨changed, [], .ok ()⟩
      | .continues changed (some failure) => some ⟨changed, [], .error failure⟩
      | .ends _ => none
  | .setDump dumps => some ⟨{ registry with dumps }, [], .ok ()⟩

/-- Answers requests in order, and returns the last registry with all exchanges; nothing when a
request ends the program. -/
def serve? (registry : Registry) : List Request → Option (Registry × List Exchange)
  | [] => some (registry, [])
  | request :: rest => do
      let response ← registry.respond? request
      let (last, exchanges) ← serve? response.registry rest
      return (last, ⟨request, registry, response⟩ :: exchanges)

end Registry

end TypedEnv
