import Conformance.Cli.Invocation
import Conformance.Run.Cycle
import Conformance.Run.Summary
import Conformance.Suite.Batch

namespace Conformance.Cli

structure World where
  tree : Tree
  network : Network
  engine : Path → Engine
  library : Library
  codec : Summary.Codec

inductive SourceError where
  | inaccessible (file : Path) (cause : SystemError)
  | tooLarge (file : Path) (size : Nat)
  | unreadable (file : Path) (cause : SystemError)
  deriving DecidableEq

def maxSource : Nat := 16 * 1024 * 1024

def SourceError.message : SourceError → String
  | inaccessible file cause => "Cannot access file '" ++ file.shown ++ "': " ++ cause.message
  | tooLarge file size =>
    "Source file '" ++ file.shown ++ "' is too large (" ++ .ofList (Decimal.ofNat size) ++ " bytes, max "
      ++ .ofList (Decimal.ofNat maxSource) ++ " bytes)"
  | unreadable file cause => "Error reading file '" ++ file.shown ++ "': " ++ cause.message

def declarations (t : Tree) (options : ScanOptions) (file : Path) : Except SourceError (List Declaration) :=
  match t.node file with
  | .error e => .error (.inaccessible file e)
  | .ok (.dir _) => .error (.unreadable file .isDirectory)
  | .ok (.file f) =>
    if maxSource < f.content.size then .error (.tooLarge file f.content.size)
    else match Declaration.ofContent? options f.content with
      | some declarations => .ok declarations
      | none => .error (.unreadable file .notText)

inductive Complaint where
  | refusal (text : String)
  | diagnostic (e : RunError)
  | usage (s : Stop)
  deriving DecidableEq

structure Ending where
  exitCode : Nat := 0
  output : String := ""
  complaint : Option Complaint := none
  tree : Tree

namespace Ending

def refused (t : Tree) (text : String) : Ending where
  exitCode := 1
  complaint := some (.refusal text)
  tree := t

def failed (t : Tree) (e : RunError) : Ending where
  exitCode := if e.isSetup then 2 else 1
  complaint := some (.diagnostic e)
  tree := t

end Ending

def version : String := "0.1.0-alpha.1"

def help : String :=
  "Usage: conformkit <COMMAND>\n\n"
    ++ "Commands:\n"
    ++ "  extract <FILE>      Print the stubs of one test file\n"
    ++ "  generate --root DIR Write a module of stubs for every file of a vendor suite\n"
    ++ "  conform             Run the vendor suite against a live instance\n"
    ++ "  tags                Show a composed tag filter and the log file named after it\n"

def stopped (t : Tree) : Stop → Ending
  | .help => { output := help, tree := t }
  | .version => { output := "conformkit " ++ version ++ "\n", tree := t }
  | s => { exitCode := 2, complaint := some (.usage s), tree := t }

def extract (t : Tree) (file : Path) (plan : StubPlan) : Ending :=
  match declarations t plan.options file with
  | .error e => .refused t e.message
  | .ok declarations => { output := Stub.renderAll plan.style (declarations.map .ofDeclaration), tree := t }

def writtenLine (w : Suite.Written) : String :=
  w.output.shown ++ " (" ++ .ofList (Decimal.ofNat w.stubs) ++ " stubs)\n"

def generate (t : Tree) (root out : Path) (plan : StubPlan) : Ending :=
  match Suite.generate t { out, style := plan.style, options := plan.options } root with
  | (.error e, t) => .refused t ("Error: " ++ e.message)
  | (.ok written, t) => { output := String.join (written.map writtenLine), tree := t }

def showTags (t : Tree) (tags : String) : Ending where
  output := Tags.compose tags ++ "\n" ++ Tags.logName tags ++ "\n"
  tree := t

def conclude (codec : Summary.Codec) (t : Tree) (summary : Option Path) (o : Outcome) : Ending :=
  match summary with
  | none => judge t
  | some p =>
    match (Summary.ofOutcome o).write codec t p with
    | .error e => .refused t ("Error: " ++ e.message)
    | .ok t => judge t
where
  judge (t : Tree) : Ending :=
    match o.verdict with
    | .error e => .failed t e
    | .ok o => { output := "conformance passed (" ++ o.logPath.shown ++ ")\n", tree := t }

def conform (w : World) (plan : RunPlan) : Ending :=
  match Instance.open w.tree w.network plan.endpoint plan.config with
  | .error e => .failed w.tree e
  | .ok ping =>
    let report := Cycle.run w.tree plan.endpoint ping (w.engine plan.engine) plan.request plan.config
    match report.outcome with
    | .error e => .failed report.tree e
    | .ok o => conclude w.codec report.tree plan.summary o

def perform (w : World) : Invocation → Ending
  | .extract file plan => extract w.tree file plan
  | .generate root out plan => generate w.tree root out plan
  | .conform plan => conform w plan
  | .tags selection => showTags w.tree selection.tags

def run (w : World) (env : String → Option String) (args : List String) : Ending :=
  match Invocation.read w.library env args with
  | .error s => stopped w.tree s
  | .ok invocation => perform w invocation

end Conformance.Cli
