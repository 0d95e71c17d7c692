import Conformance.Declaration.Scan
import Conformance.Stub.Literal
import Conformance.Stub.Sheet

/-!
Modules of stubs. Every declaration becomes a test function that is expected to fail: it takes the client
fixture, keeps the declaration's text as comments, and fails.
-/

namespace Conformance

structure Style where
  reason : String := "not implemented"
  fixture : String := "r"
  clientType : String := "redis.Redis"

structure Stub where
  function : String
  reference : List String

namespace Stub

def ofDeclaration (d : Declaration) : Stub :=
  ⟨Identifier.functionName d.identifier, d.reference⟩

def marker (style : Style) : String :=
  "@pytest.mark.xfail(reason=" ++ Literal.quote style.reason ++ ")"

def signature (style : Style) (stub : Stub) : String :=
  "def " ++ stub.function ++ "(" ++ style.fixture ++ ": " ++ style.clientType ++ ")"

def layout (style : Style) (stub : Stub) : List Step :=
  [.line (marker style), .suite (signature style stub) (stub.reference.map .comment ++ [.line "assert False"])]

def render (style : Style) (stub : Stub) : String :=
  (Sheet.steps {} (stub.layout style)).text

def header : List Step :=
  [.line "import pytest", .line "import redis"]

def renderAll (style : Style) (stubs : List Stub) : String :=
  (Sheet.steps {} (header ++ stubs.flatMap fun stub => .blank :: stub.layout style)).text

def generate (style : Style) (options : ScanOptions) (source : String) : String :=
  renderAll style ((Declaration.scan source options).map ofDeclaration)

end Stub

end Conformance
