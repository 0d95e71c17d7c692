import Conformance.Cli.Grammar

/-!
A library that reads arguments from the left. The value of a switch is looked at only when the next switch or operand
comes in, or the arguments end; an argument that no command knows is told first.
-/

namespace Conformance.Cli

inductive Form where
  | dashes
  | long (name : String) (value : Option String)
  | short (letter : Char)
  | plain
  deriving DecidableEq

def Form.ofChars : List Char → Form
  | ['-', '-'] => dashes
  | '-' :: '-' :: rest =>
    match rest.dropWhile (· ≠ '=') with
    | [] => long (.ofList rest) none
    | _ :: value => long (.ofList (rest.takeWhile (· ≠ '='))) (some (.ofList value))
  | '-' :: letter :: _ => short letter
  | _ => plain

def Form.of (arg : String) : Form :=
  ofChars arg.toList

inductive Pending (σ : Type) where
  | nothing
  | awaiting (s : Switch σ)
  | holding (s : Switch σ) (value : String)

structure Progress (σ : Type) where
  settings : σ
  pending : Pending σ := .nothing
  operand : Option (Switch σ) := none

namespace Progress

variable {σ : Type}

def settle (p : Progress σ) : Except Stop σ :=
  match p.pending with
  | .nothing => .ok p.settings
  | .awaiting s => .error (.missingValue s.name)
  | .holding s value => s.give value p.settings

def taker? (p : Progress σ) (form : Form) : Option (Switch σ) :=
  match p.pending with
  | .awaiting s => if s.takes = .anything ∨ form = .plain then some s else none
  | _ => none

def help (p : Progress σ) : Stop :=
  match p.settle with
  | .ok _ => .help
  | .error e => e

def takeOperand (p : Progress σ) (arg : String) : Except Stop (Progress σ) :=
  match p.operand with
  | none => .error (.unknownArgument arg)
  | some s => do .ok { settings := ← p.settle, pending := .holding s arg }

def takeSwitch (p : Progress σ) (s : Switch σ) (value : Option String) : Except Stop (Progress σ) :=
  match s.takes, value with
  | .nothing, some _ => .error (.surplusValue s.name)
  | .nothing, none => do .ok { p with settings := ← s.give "" (← p.settle), pending := .nothing }
  | _, some value => do .ok { p with settings := ← s.give value (← p.settle), pending := .nothing }
  | _, none => do .ok { p with settings := ← p.settle, pending := .awaiting s }

def operands (p : Progress σ) : List String → Except Stop σ
  | [] => p.settle
  | arg :: rest => (p.takeOperand arg).bind fun p => p.operands rest

end Progress

namespace Grammar

variable {σ : Type}

def takeLong (g : Grammar σ) (p : Progress σ) (name : String) (value : Option String) : Except Stop (Progress σ) :=
  match g.switches.find? (·.name == name) with
  | some s => p.takeSwitch s value
  | none =>
    if name ≠ "help" then .error (.unknownArgument ("--" ++ name))
    else if value.isSome then .error (.surplusValue name)
    else .error p.help

def readTail (g : Grammar σ) (p : Progress σ) (args : List String) : Except Stop σ :=
  match g.tail with
  | some keep => p.settle.map (keep args)
  | none => p.operands args

def readFrom (g : Grammar σ) (p : Progress σ) : List String → Except Stop σ
  | [] => p.settle
  | arg :: rest =>
    match p.taker? (Form.of arg) with
    | some s => g.readFrom { p with pending := .holding s arg } rest
    | none =>
      match Form.of arg with
      | .dashes => g.readTail p rest
      | .long name value => (g.takeLong p name value).bind fun p => g.readFrom p rest
      | .short letter => .error (if letter = 'h' then p.help else .unknownArgument arg)
      | .plain => (p.takeOperand arg).bind fun p => g.readFrom p rest

end Grammar

namespace Library

def isTopic (commands : List String) (word : String) : Bool :=
  word ∈ commands || word == "help"

def helpOn (commands : List String) : List String → Stop
  | [] => .help
  | [word] => if isTopic commands word then .help else .unknownCommand word
  | word :: next :: _ => .unknownCommand (if isTopic commands word then next else word)

def withoutCommand (commands : List String) (word : String) (rest : List String) : Stop :=
  match Form.of word, rest with
  | .dashes, [] => .noCommand
  | .dashes, next :: _ => if isTopic commands next then .unknownArgument next else .unknownCommand next
  | .long name value, _ =>
    if name ≠ "help" ∧ name ≠ "version" then .unknownArgument word
    else if value.isSome then .surplusValue name
    else if name = "help" then .help else .version
  | .short letter, _ => if letter = 'h' then .help else if letter = 'V' then .version else .unknownArgument word
  | .plain, _ => if word = "help" then helpOn commands rest else .unknownCommand word

def standard : Library where
  command commands
    | [] => .error .noCommand
    | word :: rest => if word ∈ commands then .ok (word, rest) else .error (withoutCommand commands word rest)
  read g env start args := (g.readFrom { settings := start, operand := g.operand } args).bind (g.fill env)

end Library

end Conformance.Cli
