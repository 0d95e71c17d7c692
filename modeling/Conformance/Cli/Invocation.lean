import Conformance.Cli.Grammar
import Conformance.Declaration.Scan
import Conformance.Instance.Client
import Conformance.Run.Config
import Conformance.Run.Variant
import Conformance.Stub.Module

/-!
What the program is asked to do. There are four commands; each has settings of its own, which come from switches,
then from the environment, then from defaults.
-/

namespace Conformance.Cli

inductive Selection where
  | everything
  | variant (v : Variant)
  | words (tags : String)
  deriving DecidableEq

def Selection.tags : Selection → String
  | everything => ""
  | variant v => v.tags
  | words tags => tags

structure StubPlan where
  options : ScanOptions
  style : Style

structure RunPlan where
  selection : Selection
  endpoint : Endpoint
  config : Config
  extra : List String
  engine : Path
  summary : Option Path

def RunPlan.request (p : RunPlan) : Request where
  tags := p.selection.tags
  extraArgs := p.extra

inductive Invocation where
  | extract (file : Path) (plan : StubPlan)
  | generate (root out : Path) (plan : StubPlan)
  | conform (plan : RunPlan)
  | tags (selection : Selection)

def text (s : String) : Except Stop String :=
  .ok s

def path (name s : String) : Except Stop Path :=
  if s = "" then .error (.unusableValue name s) else .ok (.ofText s)

def captured : String → Except Stop Capture
  | "line" => .ok .line
  | "block" => .ok .block
  | s => .error (.unusableValue "capture" s)

def variant (s : String) : Except Stop Variant :=
  match Variant.ofName? s with
  | some v => .ok v
  | none => .error (.malformedValue "variant" s)

def port (s : String) : Except Stop Nat :=
  match (Decimal.signed? s.toList).filter fun n => 0 ≤ n && n ≤ 0xFFFF with
  | some n => .ok n.toNat
  | none => .error (.malformedValue "port" s)

def seconds (s : String) : Except Stop Nat :=
  match Decimal.unsigned? Decimal.top64 s.toList with
  | some n => .ok n
  | none => .error (.malformedValue "timeout-secs" s)

structure StubSettings where
  capture : Option Capture := none
  dedupe : Bool := false
  reason : Option String := none
  fixture : Option String := none

def StubSettings.switches : List (Switch StubSettings) := [
  .once "capture" captured capture fun c s => { s with capture := c },
  .flag "dedupe" dedupe fun s => { s with dedupe := true },
  .once "xfail-reason" text reason fun r s => { s with reason := r },
  .once "fixture" text fixture fun f s => { s with fixture := f }]

def StubSettings.plan (s : StubSettings) : StubPlan where
  options := { capture := s.capture.getD .line, dedupe := if s.dedupe then .ordinal else .keep }
  style := { reason := s.reason.getD "not implemented", fixture := s.fixture.getD "r" }

structure TagSettings where
  variant : Option Variant := none
  words : Option String := none

def TagSettings.switches : List (Switch TagSettings) := [
  .once "variant" Cli.variant variant fun v s => { s with variant := v },
  { Switch.once "tags" text words fun t s => { s with words := t } with takes := .anything }]

def TagSettings.selection (s : TagSettings) : Except Stop Selection :=
  match s.variant, s.words with
  | some _, some _ => .error (.conflict "variant")
  | some v, none => .ok (.variant v)
  | none, some tags => .ok (.words tags)
  | none, none => .ok .everything

def required (name : String) : Option α → Except Stop α
  | some a => .ok a
  | none => .error (.missingArgument name)

structure ExtractSettings where
  file : Option Path := none
  stubs : StubSettings := {}

namespace ExtractSettings

def grammar : Grammar ExtractSettings where
  switches := StubSettings.switches.map (.within stubs fun i s => { s with stubs := i })
  operand := some (.once "FILE" (path "FILE") file fun f s => { s with file := f })

def invocation (s : ExtractSettings) : Except Stop Invocation := do
  .ok (.extract (← required "FILE" s.file) s.stubs.plan)

end ExtractSettings

structure GenerateSettings where
  root : Option Path := none
  out : Option Path := none
  stubs : StubSettings := {}

namespace GenerateSettings

def grammar : Grammar GenerateSettings where
  switches := [
    { Switch.once "root" (path "root") root fun r s => { s with root := r } with env := some "VENDOR_ROOT" },
    .once "out" (path "out") out fun o s => { s with out := o }]
    ++ StubSettings.switches.map (.within stubs fun i s => { s with stubs := i })

def invocation (s : GenerateSettings) : Except Stop Invocation := do
  .ok (.generate (← required "root" s.root) (s.out.getD (.ofText "generated")) s.stubs.plan)

end GenerateSettings

structure ConformSettings where
  tags : TagSettings := {}
  host : Option String := none
  port : Option Nat := none
  image : Option String := none
  context : Option Path := none
  runner : Option String := none
  logDir : Option Path := none
  timeout : Option Nat := none
  managed : Bool := false
  serverBinary : Option Path := none
  serverArgs : List String := []
  engine : Option Path := none
  summary : Option Path := none
  extra : List String := []

namespace ConformSettings

def grammar : Grammar ConformSettings where
  switches := TagSettings.switches.map (.within tags fun i s => { s with tags := i }) ++ [
    { Switch.once "host" text host fun h s => { s with host := h } with env := some "CONFORM_HOST" },
    { Switch.once "port" Cli.port port fun p s => { s with port := p } with env := some "CONFORM_PORT" },
    { Switch.once "image" text image fun i s => { s with image := i } with env := some "CONFORM_IMAGE" },
    .once "context" (path "context") context fun c s => { s with context := c },
    .once "runner" text runner fun r s => { s with runner := r },
    .once "log-dir" (path "log-dir") logDir fun l s => { s with logDir := l },
    .once "timeout-secs" seconds timeout fun t s => { s with timeout := t },
    .flag "managed" managed fun s => { s with managed := true },
    .once "server-bin" (path "server-bin") serverBinary fun b s => { s with serverBinary := b },
    { name := "server-arg", takes := .anything, isGiven := fun _ => false,
      store := fun a s => .ok { s with serverArgs := s.serverArgs ++ [a] } },
    .once "docker" (path "docker") engine fun e s => { s with engine := e },
    .once "summary" (path "summary") summary fun f s => { s with summary := f }]
  tail := some fun args s => { s with extra := args }

def instanceMode (s : ConformSettings) : Except Stop InstanceMode :=
  if s.managed then .ok (.managed (s.serverBinary.getD (.ofText "redis-server")) s.serverArgs)
  else if s.serverBinary.isSome ∨ s.serverArgs ≠ [] then .error (.missingArgument "managed")
  else .ok .external

def invocation (s : ConformSettings) : Except Stop Invocation := do
  let selection ← s.tags.selection
  let instanceMode ← s.instanceMode
  let d : Config := {}
  .ok (.conform {
    selection
    endpoint := ⟨s.host.getD "127.0.0.1", s.port.getD 6379⟩
    config := {
      image := s.image.getD d.image
      context := s.context.getD d.context
      runner := s.runner.getD d.runner
      logDir := s.logDir.getD d.logDir
      timeout := s.timeout.map .ofSeconds
      instanceMode }
    extra := s.extra
    engine := s.engine.getD (.ofText "docker")
    summary := s.summary })

end ConformSettings

namespace TagSettings

def grammar : Grammar TagSettings where
  switches := switches

def invocation (s : TagSettings) : Except Stop Invocation :=
  s.selection.map .tags

end TagSettings

namespace Invocation

def commands : List String :=
  ["extract", "generate", "conform", "tags"]

def ofCommand (library : Library) (env : String → Option String) (command : String) (args : List String) :
    Except Stop Invocation :=
  match command with
  | "extract" => (library.read ExtractSettings.grammar env {} args).bind (·.invocation)
  | "generate" => (library.read GenerateSettings.grammar env {} args).bind (·.invocation)
  | "conform" => (library.read ConformSettings.grammar env {} args).bind (·.invocation)
  | "tags" => (library.read TagSettings.grammar env {} args).bind (·.invocation)
  | _ => .error (.unknownCommand command)

def read (library : Library) (env : String → Option String) (args : List String) : Except Stop Invocation := do
  let (command, args) ← library.command commands args
  ofCommand library env command args

end Invocation

end Conformance.Cli
