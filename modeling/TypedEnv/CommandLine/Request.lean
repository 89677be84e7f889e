import TypedEnv.CommandLine.Usage
import TypedEnv.Module.Synthesis
import TypedEnv.Text.Similarity

/-!
# Reading the arguments of the command

`Request.read` reads arguments from left to right.  A value is taken only when
the next argument is met, so a parameter can be waiting for its value or for
being taken; what was taken before a refusal decides which use the refusal
recalls.
-/

namespace TypedEnv.CommandLine

/-- What the command is asked to do. -/
structure Request where
  file : String
  front : Option String
  output : Option String
  options : Module.Options

/-- Why no request is read. -/
inductive Ending where
  | help
  | version
  | refused (refusal : Refusal)

/-- What was read so far. -/
structure Progress where
  used : List Parameter
  values : List (Parameter × String)
  /-- The parameter that was met last, with its value if that was met, too. -/
  pending : Option (Parameter × Option String)
  positions : List Parameter

namespace Progress

def start : Progress := ⟨[], [], none, Parameter.positional⟩

def take (progress : Progress) (parameter : Parameter) (value? : Option String) :
    Progress × Option Refusal :=
  if parameter.takesValue && value?.isNone then (progress, some (.missingValue parameter))
  else if progress.used.contains parameter then
    ({ progress with used := progress.used.erase parameter }, some (.repeated parameter))
  else
    let progress := { progress with used := progress.used ++ [parameter] }
    match value? with
    | none => (progress, none)
    | some value =>
        if parameter.namesFile && value.isEmpty then (progress, some (.missingValue parameter))
        else ({ progress with values := (parameter, value) :: progress.values }, none)

/-- Takes the parameter that is waiting. -/
def settle (progress : Progress) : Progress × Option Refusal :=
  match progress.pending with
  | none => (progress, none)
  | some (parameter, value?) => { progress with pending := none }.take parameter value?

def orRefuse : Progress × Option Refusal → Except Ending Progress
  | (progress, none) => .ok progress
  | (_, some refusal) => .error (.refused refusal)

/-- Takes the parameter that is waiting and lets another one wait. -/
def await (progress : Progress) (parameter : Parameter) (value? : Option String) :
    Except Ending Progress := do
  let progress ← orRefuse progress.settle
  return { progress with pending := some (parameter, value?) }

/-- Takes the parameter that is waiting and then another one, which is at once complete. -/
def complete (progress : Progress) (parameter : Parameter) (value? : Option String) :
    Except Ending Progress := do
  let progress ← orRefuse progress.settle
  match parameter with
  | .help => throw .help
  | .version => throw .version
  | _ => orRefuse (progress.take parameter value?)

def readPositional (progress : Progress) (argument : String) : Except Ending Progress :=
  match progress.positions with
  | [] => .error (.refused (.surplus argument))
  | parameter :: positions => { progress with positions }.await parameter (some argument)

/-- Reads an argument that is no option: the value of the option that waits for one, or else a
positional argument. -/
def readPlain (progress : Progress) (argument : String) : Except Ending Progress :=
  match progress.pending with
  | some (parameter, none) => .ok { progress with pending := some (parameter, some argument) }
  | _ => progress.readPositional argument

/-- The similarity that words must exceed to be suggested. -/
def similarEnough : Text.Fraction := ⟨7, 10⟩

def refuseWord (progress : Progress) (word : String) : Refusal :=
  let spelling := fun parameter : Parameter => parameter.word.toList
  let similar := Text.mostSimilar? similarEnough spelling word.toList Parameter.options
  .unknownWord word similar progress.settle.1.used

/-- Reads an option that is given by a word, with a value after an equals sign if there is one. -/
def readWord (progress : Progress) (word : String) (value? : Option String) :
    Except Ending Progress :=
  match Parameter.ofWord? word, value? with
  | none, _ => .error (.refused (progress.refuseWord word))
  | some parameter, none =>
      if parameter.takesValue then progress.await parameter none
      else progress.complete parameter none
  | some parameter, some value =>
      if parameter.takesValue then progress.complete parameter (some value)
      else .error (.refused (.unneededValue parameter value progress.used))

/-- Reads options that are given by letters.  What follows the letter of an option with a value
is the value, perhaps after an equals sign. -/
def readLetters (progress : Progress) : List Char → Except Ending Progress
  | [] => .ok progress
  | letter :: rest =>
      match Parameter.ofLetter? letter with
      | none => .error (.refused (.unknownLetter letter))
      | some parameter =>
          if parameter.takesValue then
            match rest with
            | [] => progress.await parameter none
            | '=' :: value => progress.complete parameter (some (String.ofList value))
            | value => progress.complete parameter (some (String.ofList value))
          else do
            let progress ← progress.complete parameter none
            progress.readLetters rest

def readArgument (progress : Progress) (argument : String) : Except Ending Progress :=
  match argument.toList with
  | '-' :: '-' :: rest =>
      let word := rest.takeWhile (· != '=')
      let value? := (rest.drop word.length).tail?.map String.ofList
      progress.readWord (String.ofList word) value?
  | '-' :: letter :: rest => progress.readLetters (letter :: rest)
  | _ => progress.readPlain argument

/-- Reads arguments; those after two hyphens are positional. -/
def readAll (progress : Progress) : List String → Except Ending Progress
  | [] => orRefuse progress.settle
  | "--" :: rest => do
      let progress ← rest.foldlM readPositional progress
      orRefuse progress.settle
  | argument :: rest => do
      let progress ← progress.readArgument argument
      progress.readAll rest

end Progress

def Request.read (arguments : List String) : Except Ending Request := do
  let progress ← Progress.start.readAll arguments
  match progress.values.lookup .file with
  | none => throw (.refused (.missingFile progress.used))
  | some file =>
      let value? := fun parameter => progress.values.lookup parameter
      let standard := Module.Options.standard
      return {
        file
        front := value? .front
        output := value? .output
        options :=
          ⟨(value? .runtime).getD standard.runtime, (value? .root).getD standard.root⟩ }

end TypedEnv.CommandLine
