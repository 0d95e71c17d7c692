import Conformance.Cli.Program
import Conformance.Cli.Standard
import Conformance.Proofs.Run.Lifecycle
import Mathlib.Data.List.TakeWhile

namespace Conformance.Cli

section Laws

variable {σ : Type} {s : Switch σ}

def Switch.arg (s : Switch σ) : String :=
  "--" ++ s.name

structure Grammar.Declares (g : Grammar σ) (s : Switch σ) : Prop where
  found : g.switches.find? (·.name == s.name) = some s
  named : s.name ≠ "" ∧ '=' ∉ s.name.toList

namespace Library

/-- Commands are told by their names and flags are set by theirs; at the end the environment fills in what is left. -/
structure Basics (library : Library) : Prop where
  command {commands : List String} {word : String} (rest : List String) : word ∈ commands →
    library.command commands (word :: rest) = .ok (word, rest)
  flag {σ : Type} {g : Grammar σ} {s : Switch σ} {settings settings' : σ} (env : String → Option String)
    (rest : List String) : g.Declares s → s.takes = .nothing → s.give "" settings = .ok settings' →
      library.read g env settings (s.arg :: rest) = library.read g env settings' rest
  ends {σ : Type} (g : Grammar σ) (env : String → Option String) (settings : σ) :
    library.read g env settings [] = g.fill env settings

/-- A switch that takes anything has the next argument as its value, whatever it is. -/
def TakesAnything (library : Library) : Prop :=
  ∀ {σ : Type} {g : Grammar σ} {s : Switch σ} {settings settings' : σ} {value : String} (env : String → Option String)
    (rest : List String), g.Declares s → s.takes = .anything → s.give value settings = .ok settings' →
      library.read g env settings (s.arg :: value :: rest) = library.read g env settings' rest

/-- What stands behind `--` is the tail of the command. -/
def KeepsTail (library : Library) : Prop :=
  ∀ {σ : Type} {g : Grammar σ} {keep : List String → σ → σ} (env : String → Option String) (settings : σ)
    (args : List String), g.tail = some keep →
      library.read g env settings ("--" :: args) = library.read g env (keep args settings) []

end Library

end Laws

section Standard

variable {σ : Type} {g : Grammar σ} {s : Switch σ} {env : String → Option String} {settings settings' : σ}

lemma Form.of_arg (h : g.Declares s) : Form.of s.arg = .long s.name none := by
  obtain ⟨hne, hplain⟩ := h.named
  have harg : s.arg.toList = '-' :: '-' :: s.name.toList := by
    rw [Switch.arg, String.toList_append]
    rfl
  have hall : s.name.toList.dropWhile (· ≠ '=') = [] := by
    rw [List.dropWhile_eq_nil_iff]
    rintro c hc
    simpa using fun he : c = '=' => hplain (he ▸ hc)
  rw [Form.of, harg]
  obtain ⟨c, rest, hrest⟩ := List.exists_cons_of_ne_nil (mt String.toList_eq_nil_iff.mp hne)
  rw [hrest] at hall ⊢
  rw [ofChars]
  · simp only [hall]
    rw [← hrest, String.ofList_toList]
  · simp

section Congruence

variable {p q : Progress σ} (hs : p.settle = q.settle) (ho : p.operand = q.operand)
include hs ho

lemma Progress.takeOperand_congr (arg : String) : p.takeOperand arg = q.takeOperand arg := by
  rw [takeOperand, takeOperand, hs, ho]

lemma Progress.takeSwitch_congr (value : Option String) : p.takeSwitch s value = q.takeSwitch s value := by
  rw [takeSwitch.eq_def, takeSwitch.eq_def, hs]
  obtain ⟨ps, pp, po⟩ := p
  obtain ⟨qs, qp, qo⟩ := q
  cases ho
  rfl

lemma Progress.operands_congr (args : List String) : p.operands args = q.operands args := by
  cases args with
  | nil => exact hs
  | cons arg rest => rw [operands, operands, takeOperand_congr hs ho]

lemma Grammar.readFrom_congr (hp : ∀ form, p.taker? form = none) (hq : ∀ form, q.taker? form = none)
    (args : List String) : g.readFrom p args = g.readFrom q args := by
  have hhelp : p.help = q.help := by rw [Progress.help, Progress.help, hs]
  cases args with
  | nil => exact hs
  | cons arg rest =>
    rw [readFrom, readFrom, hp, hq]
    cases Form.of arg with
    | dashes =>
      simp only [readTail, hs]
      cases g.tail with
      | none => exact Progress.operands_congr hs ho rest
      | some keep => rfl
    | long name value =>
      have htake : g.takeLong p name value = g.takeLong q name value := by
        rw [takeLong, takeLong, hhelp]
        cases g.switches.find? (·.name == name) with
        | none => rfl
        | some s => exact Progress.takeSwitch_congr hs ho value
      simp only [htake]
    | short letter => simp only [hhelp]
    | plain => simp only [Progress.takeOperand_congr hs ho]

end Congruence

lemma Grammar.readFrom_taking (h : g.Declares s) (htakes : s.takes = .anything) {p : Progress σ}
    (hp : p.pending = .nothing) (value : String) (rest : List String) :
    g.readFrom p (s.arg :: value :: rest) = g.readFrom { p with pending := .holding s value } rest := by
  have hnone (form : Form) : p.taker? form = none := by rw [Progress.taker?, hp]
  have hlong : g.takeLong p s.name none = .ok { p with pending := .awaiting s } := by
    rw [takeLong, h.found]
    simp [Progress.takeSwitch, htakes, Progress.settle, hp, bind, Except.bind]
  have htaker : Progress.taker? { p with pending := .awaiting s } (Form.of value) = some s := by
    simp [Progress.taker?, htakes]
  rw [readFrom, hnone, Form.of_arg h]
  simp only [hlong, Except.bind]
  rw [readFrom, htaker]

namespace Library

theorem basics_standard : standard.Basics where
  command rest h := if_pos h
  flag {_ g s settings settings'} env rest h htakes hgive := by
    have hlong : g.takeLong { settings, operand := g.operand } s.name none =
        .ok { settings := settings', operand := g.operand } := by
      rw [Grammar.takeLong, h.found]
      simp [Progress.takeSwitch, htakes, Progress.settle, hgive, bind, Except.bind]
    have hread : g.readFrom { settings, operand := g.operand } (s.arg :: rest) =
        g.readFrom { settings := settings', operand := g.operand } rest := by
      rw [Grammar.readFrom]
      simp only [Progress.taker?, Form.of_arg h, hlong, Except.bind]
    exact congrArg (Except.bind · (g.fill env)) hread
  ends _ _ _ := rfl

theorem takesAnything_standard : standard.TakesAnything := by
  intro σ g s settings settings' value env rest h htakes hgive
  have hread : g.readFrom { settings, operand := g.operand } (s.arg :: value :: rest) =
      g.readFrom { settings := settings', operand := g.operand } rest := by
    rw [Grammar.readFrom_taking h htakes rfl]
    exact Grammar.readFrom_congr (p := { settings, pending := .holding s value, operand := g.operand })
      (q := { settings := settings', operand := g.operand }) hgive rfl (fun _ => rfl) (fun _ => rfl) rest
  exact congrArg (Except.bind · (g.fill env)) hread

theorem keepsTail_standard : standard.KeepsTail := by
  intro σ g keep env settings args htail
  have hdashes : Form.of "--" = .dashes := by decide +kernel
  have hread : g.readFrom { settings, operand := g.operand } ("--" :: args) = .ok (keep args settings) := by
    rw [Grammar.readFrom, Progress.taker?, hdashes]
    simp only [Grammar.readTail, htail]
    rfl
  exact congrArg (Except.bind · (g.fill env)) hread

end Library

end Standard

lemma Grammar.fill_eq {σ : Type} (g : Grammar σ) (env : String → Option String) (settings : σ) :
    g.fill env settings = (g.switches.filter (·.env.isSome)).foldlM (fun settings s =>
      match s.env.bind env with
      | some value => if s.isGiven settings then .ok settings else s.store value settings
      | none => .ok settings) settings := by
  rw [Grammar.fill, List.foldlM_filter]
  congr 1
  funext settings s
  cases s.env <;> rfl

namespace ConformSettings

variable {env : String → Option String} {library : Library}

def managedSwitch : Switch ConformSettings :=
  .flag "managed" managed fun s => { s with managed := true }

def serverArgSwitch : Switch ConformSettings where
  name := "server-arg"
  takes := .anything
  isGiven _ := false
  store arg s := .ok { s with serverArgs := s.serverArgs ++ [arg] }

lemma declares_managedSwitch : grammar.Declares managedSwitch :=
  ⟨rfl, by decide, by decide⟩

lemma declares_serverArgSwitch : grammar.Declares serverArgSwitch :=
  ⟨rfl, by decide, by decide⟩

lemma read_managed (hb : library.Basics) (args : List String) :
    library.read grammar env {} ("--managed" :: args) = library.read grammar env { managed := true } args :=
  hb.flag env args declares_managedSwitch rfl rfl

lemma read_serverArgs (ha : library.TakesAnything) (values rest : List String) (settings : ConformSettings) :
    library.read grammar env settings (values.flatMap (fun v => ["--server-arg", v]) ++ rest) =
      library.read grammar env { settings with serverArgs := settings.serverArgs ++ values } rest := by
  induction values generalizing settings with
  | nil => rw [List.append_nil]; rfl
  | cons v values ih =>
    rw [List.flatMap_cons, List.append_assoc]
    refine (ha env _ declares_serverArgSwitch rfl rfl).trans ((ih _).trans ?_)
    rw [List.append_assoc, List.singleton_append]

lemma fill_unset {settings : ConformSettings} (hhost : settings.host = none) (hport : settings.port = none)
    (himage : settings.image = none) :
    grammar.fill env settings = ((env "CONFORM_PORT").mapM Cli.port).map fun port =>
      { settings with host := env "CONFORM_HOST", port := port, image := env "CONFORM_IMAGE" } := by
  have hswitches : grammar.switches.filter (·.env.isSome) = [
      { Switch.once "host" text host fun h s => { s with host := h } with env := some "CONFORM_HOST" },
      { Switch.once "port" Cli.port port fun p s => { s with port := p } with env := some "CONFORM_PORT" },
      { Switch.once "image" text image fun i s => { s with image := i } with env := some "CONFORM_IMAGE" }] := rfl
  rw [Grammar.fill_eq, hswitches]
  simp only [List.foldlM_cons, List.foldlM_nil, Switch.once, Option.bind_some, text]
  cases settings
  cases hhost
  cases hport
  cases himage
  cases env "CONFORM_HOST" <;> cases env "CONFORM_IMAGE" <;> cases env "CONFORM_PORT" with
  | none => rfl
  | some t =>
    simp only [Option.mapM_some]
    cases Cli.port t <;> rfl

end ConformSettings

section Plans

variable (env : String → Option String)

def chosenPort : Except Stop Nat :=
  match env "CONFORM_PORT" with
  | none => .ok 6379
  | some word => port word

def managedPlan (port : Nat) : RunPlan where
  selection := .everything
  endpoint := ⟨(env "CONFORM_HOST").getD "127.0.0.1", port⟩
  config := {
    image := (env "CONFORM_IMAGE").getD "conformkit-suite:latest"
    instanceMode := .managed (.ofText "redis-server") [] }
  extra := []
  engine := .ofText "docker"
  summary := none

def RunPlan.passing (plan : RunPlan) (serverArgs extra : List String) : RunPlan :=
  { plan with
    config := { plan.config with instanceMode := .managed (.ofText "redis-server") serverArgs }
    extra := extra }

variable {library : Library} (hb : library.Basics)
include hb

variable {env} in
lemma read_conform {args serverArgs extra : List String}
    (h : library.read ConformSettings.grammar env {} args =
      library.read ConformSettings.grammar env { managed := true, serverArgs := serverArgs, extra := extra } []) :
    Invocation.read library env ("conform" :: args) = (chosenPort env).map fun port =>
      .conform ((managedPlan env port).passing serverArgs extra) := by
  have hread : Invocation.read library env ("conform" :: args) =
      (library.read ConformSettings.grammar env {} args).bind (·.invocation) := by
    rw [Invocation.read, hb.command args (by decide)]
    rfl
  rw [hread, h, hb.ends, ConformSettings.fill_unset rfl rfl rfl, chosenPort]
  cases env "CONFORM_PORT" with
  | none => rfl
  | some word =>
    simp only [Option.mapM_some]
    cases Cli.port word <;> rfl

end Plans

end Conformance.Cli
