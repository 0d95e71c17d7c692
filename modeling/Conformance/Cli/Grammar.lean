/-!
What the commands of a program take: switches by their long names, values and operands. How arguments are read by it
is up to a library.
-/

namespace Conformance.Cli

/-- Why arguments ask for no work: they ask for an explanation, or they are not understood. A value is unusable where
it is none of those that are listed, or an empty path; it is malformed where it cannot be read at all. -/
inductive Stop where
  | help
  | version
  | noCommand
  | unknownCommand (word : String)
  | unknownArgument (arg : String)
  | surplusValue (name : String)
  | missingValue (name : String)
  | unusableValue (name value : String)
  | malformedValue (name value : String)
  | conflict (name : String)
  | missingArgument (name : String)
  deriving DecidableEq

def Stop.message : Stop → String
  | help => "help was asked for"
  | version => "the version was asked for"
  | noCommand => "a command is needed"
  | unknownCommand word => "unknown command '" ++ word ++ "'"
  | unknownArgument arg => "unexpected argument '" ++ arg ++ "'"
  | surplusValue name => "'--" ++ name ++ "' takes no value"
  | missingValue name => "'--" ++ name ++ "' needs a value"
  | unusableValue name value => "'" ++ value ++ "' is no value for '" ++ name ++ "'"
  | malformedValue name value => "'" ++ value ++ "' cannot be read for '" ++ name ++ "'"
  | conflict name => "'--" ++ name ++ "' cannot be used here"
  | missingArgument name => "'" ++ name ++ "' is needed"

inductive Takes where
  | nothing
  | value
  | anything
  deriving DecidableEq

/-- A named part of the settings `σ`, with the environment variable that stands in for it. -/
structure Switch (σ : Type) where
  name : String
  takes : Takes := .value
  env : Option String := none
  isGiven : σ → Bool
  store : String → σ → Except Stop σ

namespace Switch

variable {σ τ α : Type}

def give (s : Switch σ) (value : String) (settings : σ) : Except Stop σ :=
  if s.isGiven settings then .error (.conflict s.name) else s.store value settings

def once (name : String) (read : String → Except Stop α) (get : σ → Option α) (set : α → σ → σ) : Switch σ where
  name := name
  isGiven settings := (get settings).isSome
  store value settings := (read value).map fun a => set a settings

def flag (name : String) (get : σ → Bool) (set : σ → σ) : Switch σ where
  name := name
  takes := .nothing
  isGiven := get
  store _ settings := .ok (set settings)

def within (get : τ → σ) (set : σ → τ → τ) (s : Switch σ) : Switch τ where
  name := s.name
  takes := s.takes
  env := s.env
  isGiven settings := s.isGiven (get settings)
  store value settings := (s.store value (get settings)).map fun inner => set inner settings

end Switch

structure Grammar (σ : Type) where
  switches : List (Switch σ)
  operand : Option (Switch σ) := none
  tail : Option (List String → σ → σ) := none

def Grammar.fill {σ : Type} (g : Grammar σ) (env : String → Option String) (settings : σ) : Except Stop σ :=
  g.switches.foldlM (fun settings s =>
    match s.env.bind env with
    | some value => if s.isGiven settings then .ok settings else s.store value settings
    | none => .ok settings) settings

/-- Reads arguments: which of some commands they name, and what the command's own arguments make of its settings. -/
structure Library where
  command : List String → List String → Except Stop (String × List String)
  read : {σ : Type} → Grammar σ → (String → Option String) → σ → List String → Except Stop σ

end Conformance.Cli
