import Conformance.Declaration.Content
import Conformance.Stub.Module
import Conformance.Suite.Source

/-!
Modules of stubs for a whole vendor suite. Each source gives one module, written over what is there; the first
source that cannot be read or written ends the batch, and what was written before it stays.
-/

namespace Conformance.Suite

inductive BatchError where
  | missingSuite (directory : Path)
  | extract (source : Path) (cause : SystemError)
  | write (path : Path) (cause : SystemError)
  deriving DecidableEq

def BatchError.message : BatchError → String
  | missingSuite directory => "vendor test directory '" ++ directory.shown ++ "' does not exist"
  | extract source cause => "cannot read DSL source '" ++ source.shown ++ "': " ++ cause.message
  | write path cause => "cannot write '" ++ path.shown ++ "': " ++ cause.message

structure Target where
  out : Path
  style : Style := {}
  options : ScanOptions := {}

structure Written where
  source : Path
  output : Path
  stubs : Nat
  deriving DecidableEq

def extract (t : Tree) (options : ScanOptions) (source : Path) : Except BatchError (List Declaration) :=
  match t.content source with
  | .error e => .error (.extract source e)
  | .ok content =>
    match Declaration.ofContent? options content with
    | some declarations => .ok declarations
    | none => .error (.extract source .notText)

theorem extract_eq (t : Tree) (options : ScanOptions) (source : Path) :
    extract t options source = ((t.readText source).map (Declaration.scan · options)).mapError (.extract source) := by
  unfold extract Tree.readText Tree.read
  cases t.content source with
  | error e => rfl
  | ok c =>
    simp only [Declaration.ofContent?_eq, bind, Except.bind, pure, Except.pure]
    cases Octets.toString? c.toBytes <;> rfl

def moduleChar (c : Char) : Char :=
  if c ∈ ['-', '.', ' '] then '_' else c

def moduleName (l : Node.Location) : String :=
  let names := match l.getLast? with
    | some name => l.dropLast ++ [Path.stem name]
    | none => []
  "test_" ++ "_".intercalate (names.map fun name => .ofList ((Octets.shown name).toList.map moduleChar))

def outputPath (out : Path) (name : String) : Path :=
  out.join (.ofText (name ++ ".py"))

def generateFile (t : Tree) (target : Target) (source : Path) (name : String) : Except BatchError Written × Tree :=
  match extract t target.options source with
  | .error e => (.error e, t)
  | .ok declarations =>
    let output := outputPath target.out name
    let text := Stub.renderAll target.style (declarations.map .ofDeclaration)
    match t.write output (Octets.ofString text) with
    | .ok t => (.ok { source, output, stubs := declarations.length }, t)
    | .error e => (.error (.write output e), t)

def generateAll (t : Tree) (target : Target) (dir : Path) : List Node.Location → Except BatchError (List Written) × Tree
  | [] => (.ok [], t)
  | l :: rest =>
    match generateFile t target (below dir l) (moduleName l) with
    | (.error e, t) => (.error e, t)
    | (.ok written, t) =>
      match generateAll t target dir rest with
      | (.ok more, t) => (.ok (written :: more), t)
      | failed => failed

def generate (t : Tree) (target : Target) (root : Path) : Except BatchError (List Written) × Tree :=
  match t.node (directory root) with
  | .ok (.dir entries) =>
    match t.createDirs target.out with
    | (.error e, t) => (.error (.write target.out e), t)
    | (.ok _, t) => generateAll t target (directory root) (sources (directory root) entries)
  | _ => (.error (.missingSuite (directory root)), t)

end Conformance.Suite
