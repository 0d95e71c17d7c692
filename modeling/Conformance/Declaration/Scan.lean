import Conformance.Declaration.Block
import Conformance.Declaration.Identifier
import Conformance.Declaration.Registry
import Conformance.Text.Line

namespace Conformance

inductive Capture where
  | line
  | block
  deriving DecidableEq

structure ScanOptions where
  capture : Capture := .line
  dedupe : Dedupe := .keep

structure Declaration where
  line : Nat
  text : String
  identifier : String
  reference : List String
  collided : Bool
  deriving DecidableEq

namespace Declaration

def isDeclaration (line : List Char) : Bool :=
  Identifier.keyword.isPrefixOf (Text.trim line)

def excerpt (capture : Capture) (line : List Char) (rest : List (List Char)) : List String :=
  match capture with
  | .line => [.ofList (Text.trim line)]
  | .block => (Block.capture (line :: rest)).map .ofList

def scanLines (capture : Capture) (number : Nat) (registry : Registry) : List (List Char) → List Declaration
  | [] => []
  | line :: rest =>
    if isDeclaration line then
      let text := .ofList (Text.trim line)
      let (identifier, collided) := (registry.register (Identifier.derive text)).1
      { line := number, text, identifier, reference := excerpt capture line rest, collided } ::
        scanLines capture (number + 1) (registry.register (Identifier.derive text)).2 rest
    else scanLines capture (number + 1) registry rest

def scan (source : String) (options : ScanOptions) : List Declaration :=
  scanLines options.capture 1 (.new options.dedupe) (Text.lines source.toList)

end Declaration

end Conformance
