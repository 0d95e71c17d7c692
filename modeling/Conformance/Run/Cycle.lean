import Conformance.Instance.Open
import Conformance.Run.Command
import Conformance.Run.Outcome
import Conformance.Run.Tags

/-!
One run of the vendor suite against a live instance: ask the instance whether it is there, build the image, start
the container, wait for it, keep its log and remove it. A container that was started is removed on every path.
-/

namespace Conformance

structure Engine where
  build : Except RunError Unit := .ok ()
  start : Except RunError String
  wait : Except RunError Int := .ok 0
  logs : Except RunError Bytes := .ok []
  remove : Except RunError Unit := .ok ()
  elapsed : Duration := ⟨0, 0⟩

inductive Event where
  | execute (args : List String)
  | build (context : Path) (tag : String)
  | run (spec : ContainerSpec)
  | wait (limit : Option Duration)
  | logs
  | remove
  deriving DecidableEq

structure Report where
  outcome : Except RunError Outcome
  events : List Event
  tree : Tree

namespace Cycle

structure Progress where
  events : List Event := []
  tree : Tree

def Progress.note (p : Progress) (event : Event) : Progress :=
  { p with events := p.events ++ [event] }

abbrev Action := ExceptT RunError (StateM Progress)

namespace Action

variable {α β : Type}

def perform (a : Action α) (p : Progress) : Except RunError α × Progress :=
  StateT.run (ExceptT.run a) p

theorem perform_bind (a : Action α) (f : α → Action β) (p : Progress) :
    perform (a >>= f) p = match perform a p with
      | (.ok x, q) => perform (f x) q
      | (.error e, q) => (.error e, q) := by
  unfold perform ExceptT.run StateT.run
  simp only [bind, ExceptT.bind, ExceptT.mk, StateT.bind, ExceptT.bindCont]
  cases a p with
  | mk outcome q => cases outcome <;> rfl

@[simp] theorem perform_map (f : α → β) (a : Action α) (p : Progress) :
    perform (f <$> a) p = ((perform a p).1.map f, (perform a p).2) := by
  unfold perform ExceptT.run StateT.run
  simp only [Functor.map, ExceptT.map, ExceptT.mk, bind, StateT.bind]
  cases a p with
  | mk outcome q => cases outcome <;> rfl

@[simp] theorem perform_pure (x : α) (p : Progress) : perform (pure x) p = (.ok x, p) :=
  rfl

@[simp] theorem perform_liftExcept (r : Except RunError α) (p : Progress) : perform (liftExcept r) p = (r, p) := by
  cases r <;> rfl

end Action

def call {α : Type} (event : Event) (answer : Except RunError α) : Action α :=
  ExceptT.mk fun p => (answer, p.note event)

@[simp] theorem perform_call {α : Type} (event : Event) (answer : Except RunError α) (p : Progress) :
    (call event answer).perform p = (answer, p.note event) :=
  rfl

def attempt {α : Type} (a : Action α) : Action (Except RunError α) :=
  ExceptT.lift a.run

@[simp] theorem perform_attempt {α : Type} (a : Action α) (p : Progress) :
    (attempt a).perform p = (.ok (a.perform p).1, (a.perform p).2) :=
  rfl

/-- Has a started container for as long as an action takes. The container is removed however the action ended, and
nothing hangs on what the removal comes to. -/
def holding {α : Type} (engine : Engine) (a : Action α) : Action α := do
  let outcome ← attempt a
  let _ ← attempt (call .remove engine.remove)
  liftExcept outcome

@[simp] theorem perform_holding {α : Type} (engine : Engine) (a : Action α) (p : Progress) :
    (holding engine a).perform p = ((a.perform p).1, (a.perform p).2.note .remove) := by
  simp [holding, Action.perform_bind]

abbrev Keeper := Tree → Path → Bytes → Except RunError Unit × Tree

def persist : Keeper := fun t path log =>
  let parent := path.parent?.getD ⟨[]⟩
  match t.createDirs parent with
  | (.error e, t) => (.error (.logWrite path e.message), t)
  | (.ok _, t) =>
    match t.write path log with
    | .error e => (.error (.logWrite path e.message), t)
    | .ok t => (.ok (), t)

def keep (keeper : Keeper) (path : Path) (log : Bytes) : Action Unit :=
  ExceptT.mk fun p => ((keeper p.tree path log).1, { p with tree := (keeper p.tree path log).2 })

@[simp] theorem perform_keep (keeper : Keeper) (path : Path) (log : Bytes) (p : Progress) :
    (keep keeper path log).perform p =
      ((keeper p.tree path log).1, { p with tree := (keeper p.tree path log).2 }) :=
  rfl

def command (endpoint : Endpoint) (request : Request) (config : Config) : List String :=
  vendorCommand config.runner endpoint (Tags.compose request.tags) request.extraArgs

def spec (endpoint : Endpoint) (request : Request) (config : Config) : ContainerSpec where
  image := config.image
  command := command endpoint request config
  extraHosts := [ContainerSpec.hostGateway]

def finished (endpoint : Endpoint) (id : String) (engine : Engine) (request : Request) (config : Config)
    (status : Int) (log : Bytes) : Outcome where
  containerId := id
  tags := Tags.compose request.tags
  command := command endpoint request config
  exitStatus := status
  logPath := Tags.logPath config.logDir request.tags
  logBytes := log.length
  elapsed := engine.elapsed

/-- What a started container comes to. Its log is kept even where waiting for it failed. -/
def collect (keeper : Keeper) (endpoint : Endpoint) (id : String) (engine : Engine) (request : Request)
    (config : Config) : Action Outcome := do
  let status ← attempt (call (.wait config.timeout) engine.wait)
  let logs ← attempt (call .logs engine.logs)
  if let .ok log := logs then
    keep keeper (Tags.logPath config.logDir request.tags) log
  let status ← liftExcept status
  let log ← liftExcept logs
  return finished endpoint id engine request config status log

def conduct (keeper : Keeper) (endpoint : Endpoint) (ping : Except ClientError Reply) (engine : Engine)
    (request : Request) (config : Config) : Action Outcome := do
  call (.execute ["PING"]) (Instance.preflight ping)
  call (.build config.context config.image) engine.build
  let id ← call (.run (spec endpoint request config)) engine.start
  holding engine (collect keeper endpoint id engine request config)

def runKeeping (keeper : Keeper) (t : Tree) (endpoint : Endpoint) (ping : Except ClientError Reply) (engine : Engine)
    (request : Request) (config : Config) : Report :=
  let (outcome, progress) := (conduct keeper endpoint ping engine request config).perform { tree := t }
  { outcome, events := progress.events, tree := progress.tree }

def run (t : Tree) (endpoint : Endpoint) (ping : Except ClientError Reply) (engine : Engine) (request : Request)
    (config : Config) : Report :=
  runKeeping persist t endpoint ping engine request config

end Cycle

end Conformance
