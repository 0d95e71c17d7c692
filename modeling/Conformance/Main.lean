import Conformance.Cli.Program
import Conformance.Cli.Standard
import Conformance.Instance.Offline
import Conformance.Run.SummaryJson

/-!
The program on a real machine. The files that an invocation names are read into a tree, the invocation is performed
on it, and what changed is written back. No network and no container engine is within reach from here.
-/

namespace Conformance.Cli

partial def onDisk (place : String) : IO (Option Node) := do
  let p := (← IO.currentDir) / place
  if ← p.isDir then
    let mut entries : List (Name × Node) := []
    for e in ← p.readDir do
      if let some node ← onDisk (place ++ "/" ++ e.fileName) then
        entries := entries ++ [(Octets.ofString e.fileName, node)]
    return some (.dir entries)
  else if ← p.pathExists then
    return some (.file { content := .octets (← IO.FS.readBinFile p).toList })
  else
    return none

def placeOf (l : Node.Location) : String :=
  "/" ++ "/".intercalate (l.map Octets.shown)

def gather (t : Tree) (p : Path) : IO Tree := do
  let mut t := t
  let mut l := t.start p
  for s in p.segments do
    l := if s = Path.here then l else if s = Path.up then l.dropLast else l ++ [s]
    if (t.root.at? l).isNone then
      if ← ((← IO.currentDir) / placeOf l).isDir then
        t := t.put l (.dir [])
  if let some node ← onDisk (placeOf l) then
    t := t.put l node
  return t

partial def store (place : String) (before : Option Node) : Node → IO Unit
  | .file f => do
    let same := match before with
      | some (.file g) => g == f
      | _ => false
    if !same then
      IO.FS.writeBinFile ((← IO.currentDir) / place) ⟨f.content.toBytes.toArray⟩
  | .dir entries => do
    if before.isNone then
      IO.FS.createDirAll ((← IO.currentDir) / place)
    for (name, node) in entries do
      store (place ++ "/" ++ Octets.shown name) (before.bind (·.at? [name])) node

def Invocation.paths : Invocation → List Path
  | extract file _ => [file]
  | generate root out _ => [Suite.directory root, out]
  | conform plan => plan.config.logDir :: plan.summary.toList
  | tags _ => []

def Complaint.text : Complaint → String
  | refusal text => text
  | diagnostic e => e.code ++ ": " ++ e.message ++ ((e.help.map fun h => "\nhelp: " ++ h).getD "")
  | usage s => "error: " ++ s.message ++ "\n\n" ++ help

def inherited : List String :=
  GenerateSettings.grammar.switches.filterMap Switch.env ++ ConformSettings.grammar.switches.filterMap Switch.env

def environment : IO (String → Option String) := do
  let pairs ← inherited.mapM fun name => return (name, ← IO.getEnv name)
  return fun name => (pairs.lookup name).bind id

def noEngine (program : Path) : Engine where
  build := .error (.spawn program.shown SystemError.notFound.message)
  start := .error (.spawn program.shown SystemError.notFound.message)

def start (args : List String) : IO UInt32 := do
  let env ← environment
  let workdir := (Path.ofText (← IO.currentDir).toString).segments
  let paths := match Invocation.read .standard env args with
    | .ok invocation => invocation.paths
    | .error _ => []
  let here : Tree := { root := Node.put workdir (.dir []) (.dir []), workdir }
  let tree ← paths.foldlM gather here
  let ending := run { tree, network := .offline, engine := noEngine, library := .standard, codec := .standard } env args
  store "" (some tree.root) ending.tree.root
  IO.print ending.output
  if let some complaint := ending.complaint then
    IO.eprintln complaint.text
  return UInt32.ofNat ending.exitCode

end Conformance.Cli

def main (args : List String) : IO UInt32 :=
  Conformance.Cli.start args
