import Conformance.Run.Cycle
import Mathlib.Tactic.Lemma

/-! The calls of a run, on every path through it. A container that was started is removed once and last. -/

namespace Conformance.Cycle

open Conformance.Cycle.Action

variable (keeper : Keeper) (t : Tree) (endpoint : Endpoint) (id : String) (ping : Except ClientError Reply)
variable (engine : Engine) (request : Request) (config : Config) (p : Progress)

def answered (ping : Except ClientError Reply) : Bool :=
  match ping with
  | .ok reply => reply.isPong
  | .error _ => false

def built (ping : Except ClientError Reply) (engine : Engine) : Bool :=
  answered ping && engine.build.isOk

def started (ping : Except ClientError Reply) (engine : Engine) : Bool :=
  built ping engine && engine.start.isOk

def calls (endpoint : Endpoint) (ping : Except ClientError Reply) (engine : Engine) (request : Request)
    (config : Config) : List Event :=
  [.execute ["PING"]]
    ++ (if answered ping then [.build config.context config.image] else [])
    ++ (if built ping engine then [.run {
          image := config.image
          command := [config.runner, "--host", Endpoint.containerHost endpoint.host,
            "--port", .ofList (Decimal.ofNat endpoint.port), "--verbose", "--dump-logs",
            "--tags", Tags.compose request.tags] ++ request.extraArgs
          extraHosts := ["host.docker.internal:host-gateway"] }] else [])
    ++ (if started ping engine then [.wait config.timeout, .logs, .remove] else [])

lemma isOk_preflight : (Instance.preflight ping).isOk = answered ping := by
  cases ping with
  | error e => rfl
  | ok reply => cases h : reply.isPong <;> simp [Instance.preflight, answered, h, Except.isOk, Except.toBool]

lemma perform_collect : (collect keeper endpoint id engine request config).perform p =
    let q := (p.note (.wait config.timeout)).note .logs
    match engine.logs with
    | .error e => (engine.wait.bind fun _ => .error e, q)
    | .ok log =>
      let kept := keeper p.tree (Tags.logPath config.logDir request.tags) log
      (kept.1.bind fun _ => engine.wait.map fun status => finished endpoint id engine request config status log,
        { q with tree := kept.2 }) := by
  -- What came of the wait is looked at only after the log is kept, and before what came of the logs.
  cases hl : engine.logs with
  | error e => cases hw : engine.wait <;> simp [collect, perform_bind, hl, hw, Except.bind, Except.map]
  | ok log =>
    cases hk : (keeper p.tree (Tags.logPath config.logDir request.tags) log).1 <;>
      cases hw : engine.wait <;> simp [collect, perform_bind, hl, hw, hk, Except.bind, Except.map, Progress.note]

lemma events_collect : ((collect keeper endpoint id engine request config).perform p).2.events =
    p.events ++ [.wait config.timeout, .logs] := by
  rw [perform_collect]
  cases engine.logs <;> simp [Progress.note]

lemma perform_conduct : (conduct keeper endpoint ping engine request config).perform p =
    match Instance.preflight ping, engine.build, engine.start with
    | .error e, _, _ => (.error e, p.note (.execute ["PING"]))
    | .ok _, .error e, _ => (.error e, (p.note (.execute ["PING"])).note (.build config.context config.image))
    | .ok _, .ok _, .error e =>
      (.error e, ((p.note (.execute ["PING"])).note (.build config.context config.image)).note
        (.run (spec endpoint request config)))
    | .ok _, .ok _, .ok id =>
      let (outcome, q) := (collect keeper endpoint id engine request config).perform
        (((p.note (.execute ["PING"])).note (.build config.context config.image)).note
          (.run (spec endpoint request config)))
      (outcome, q.note .remove) := by
  simp only [conduct, perform_bind, perform_call]
  cases Instance.preflight ping with
  | error e => rfl
  | ok _ =>
    cases engine.build with
    | error e => rfl
    | ok _ =>
      cases engine.start with
      | error e => rfl
      | ok id => simp

lemma runKeeping_eq : runKeeping keeper t endpoint ping engine request config =
    let (outcome, q) := (conduct keeper endpoint ping engine request config).perform { tree := t }
    ⟨outcome, q.events, q.tree⟩ :=
  rfl

lemma events_runKeeping : (runKeeping keeper t endpoint ping engine request config).events =
    calls endpoint ping engine request config := by
  rw [runKeeping_eq, perform_conduct, calls, started, built, ← isOk_preflight]
  cases Instance.preflight ping <;> cases engine.build <;> cases engine.start <;>
    simp [Except.isOk, Except.toBool, Progress.note, events_collect, spec, command, vendorCommand,
      ContainerSpec.hostGateway, Endpoint.hostAlias]

lemma runKeeping_remove (removal : Except RunError Unit) :
    runKeeping keeper t endpoint ping { engine with remove := removal } request config =
      runKeeping keeper t endpoint ping engine request config := by
  rw [runKeeping_eq, runKeeping_eq, perform_conduct, perform_conduct]
  simp only [perform_collect, finished]

lemma remove_calls :
    (calls endpoint ping engine request config).count .remove = (if started ping engine then 1 else 0) ∧
      ((calls endpoint ping engine request config).getLast? = some .remove ↔ started ping engine = true) := by
  by_cases ha : answered ping = true <;> by_cases hb : built ping engine = true <;>
    by_cases hs : started ping engine = true <;> simp [calls, ha, hb, hs]

lemma run_mem_calls {spec : ContainerSpec} : .run spec ∈ calls endpoint ping engine request config ↔
    built ping engine = true ∧ spec = {
      image := config.image
      command := [config.runner, "--host", Endpoint.containerHost endpoint.host,
        "--port", .ofList (Decimal.ofNat endpoint.port), "--verbose", "--dump-logs",
        "--tags", Tags.compose request.tags] ++ request.extraArgs
      extraHosts := ["host.docker.internal:host-gateway"] } := by
  by_cases hb : built ping engine = true <;> simp [calls, hb]

theorem runKeeping_calls :
    (runKeeping keeper t endpoint ping engine request config).events = calls endpoint ping engine request config ∧
      ((runKeeping keeper t endpoint ping engine request config).events.count .remove =
        if started ping engine then 1 else 0) ∧
      ((runKeeping keeper t endpoint ping engine request config).events.getLast? = some .remove ↔
        started ping engine = true) ∧
      ∀ removal,
        (runKeeping keeper t endpoint ping { engine with remove := removal } request config).outcome =
            (runKeeping keeper t endpoint ping engine request config).outcome ∧
          (runKeeping keeper t endpoint ping { engine with remove := removal } request config).tree =
            (runKeeping keeper t endpoint ping engine request config).tree := by
  have he := events_runKeeping keeper t endpoint ping engine request config
  obtain ⟨hcount, hlast⟩ := remove_calls endpoint ping engine request config
  refine ⟨he, ?_, ?_, ?_⟩
  · rw [he]
    exact hcount
  · rw [he]
    exact hlast
  · intro removal
    rw [runKeeping_remove]
    exact ⟨rfl, rfl⟩

end Conformance.Cycle
