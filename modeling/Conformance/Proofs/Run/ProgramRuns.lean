import Conformance.Proofs.Run.Executions
import Conformance.Proofs.Run.Logs

namespace Conformance

namespace Cycle

lemma calls_eq (endpoint : Endpoint) (ping : Except ClientError Reply) (engine : Engine) (request : Request)
    (config : Config) : calls endpoint ping engine request config =
      .execute ["PING"] :: if answered ping then
        .build config.context config.image :: match engine.build, engine.start with
          | .error _, _ => []
          | .ok _, .error _ => [.run (spec endpoint request config)]
          | .ok _, .ok _ => [.run (spec endpoint request config), .wait config.timeout, .logs, .remove]
      else [] := by
  rw [calls, started, built]
  cases answered ping <;> cases engine.build <;> cases engine.start <;>
    simp [Except.isOk, Except.toBool, spec, command, vendorCommand, ContainerSpec.hostGateway, Endpoint.hostAlias]

end Cycle

namespace Docker

def Executions.attempt? (x : Executions) : Event → Option Attempt
  | .execute _ => none
  | .build context tag => some (.build context tag, x.build)
  | .run spec => some (.run spec, x.run)
  | .wait limit => some (.wait limit, x.wait)
  | .logs => some (.logs, x.logs)
  | .remove => some (.remove, x.remove)

def answer? (engine : Engine) : Event → Option (Except RunError Answer)
  | .execute _ => none
  | .build _ _ => some (engine.build.map fun _ => .done)
  | .run _ => some (engine.start.map .started)
  | .wait _ => some (engine.wait.map .exited)
  | .logs => some (engine.logs.map .log)
  | .remove => some (engine.remove.map fun _ => .done)

section Runs

variable {x : Executions} {program : Path} {endpoint : Endpoint} {request : Request} {config : Config} {engine : Engine}

/-- A session of the program that makes the calls of a run is answered as the run is, and makes each of them on the
container that the run starts. -/
theorem calls_events (h : x.engine? program endpoint request config = some engine) (keeper : Cycle.Keeper) (t : Tree)
    (ping : Except ClientError Reply) :
    let events := (Cycle.runKeeping keeper t endpoint ping engine request config).events
    let attempts := events.filterMap x.attempt?
    let results := Session.calls { program } attempts
    results.map Result.outcome? = (events.filterMap (answer? engine)).map some ∧
      results = attempts.map fun a => (Session.call { program, container := engine.start.toOption } a.1 a.2).1 := by
  intro events attempts results
  have ha := answers_of_engine? h
  have hevents : events = _ := (Cycle.events_runKeeping ..).trans (Cycle.calls_eq ..)
  have hbuilt := call_snd_of_ne (by simp) ha.build
  by_cases hp : Cycle.answered ping = true
  swap
  · simp [results, attempts, hevents, hp, List.filterMap_cons, Executions.attempt?, Session.calls, answer?]
  cases hb : engine.build with
  | error e =>
    simp [results, attempts, hevents, hp, hb, ha.stopped hb, ha.build, List.filterMap_cons, Executions.attempt?,
      Session.calls, answer?, Except.toOption]
  | ok _ =>
    cases hs : engine.start with
    | error e =>
      simp [results, attempts, hevents, hp, hb, hs, ha.build, hbuilt, ha.start hb, List.filterMap_cons,
        Executions.attempt?, Session.calls, answer?, Except.toOption]
    | ok id =>
      have hran : (Session.call { program } (.run (Cycle.spec endpoint request config)) x.run).2 =
          { program, container := some id } := by
        rw [call_snd, ha.start hb, hs]
        rfl
      have hwaited := call_snd_of_ne (by simp) (ha.wait hs)
      have hlogged := call_snd_of_ne (by simp) (ha.logs hs)
      simp [results, attempts, hevents, hp, hb, hs, ha.build, hbuilt, ha.start hb, hran, ha.wait hs, hwaited,
        ha.logs hs, hlogged, ha.remove hs, List.filterMap_cons, Executions.attempt?, Session.calls, answer?, Except.toOption]
      exact ⟨(call_fst_eq rfl).symm, (call_fst_eq rfl).symm⟩

def Concludes (x : Executions) (t : Tree) (endpoint : Endpoint) (ping : Except ClientError Reply) (request : Request)
    (config : Config) (status : Int) : Prop :=
  Cycle.answered ping = true ∧ ∃ id log, Finishes x endpoint request config id status log ∧
    (Cycle.persist t (Tags.logPath config.logDir request.tags) log).1 = .ok ()

lemma Concludes.unique (h : x.engine? program endpoint request config = some engine) {t : Tree}
    {ping : Except ClientError Reply} {status status' : Int} (hc : Concludes x t endpoint ping request config status)
    (hc' : Concludes x t endpoint ping request config status') : status = status' := by
  have ha := answers_of_engine? h
  obtain ⟨-, _, _, hf, -⟩ := hc
  obtain ⟨-, _, _, hf', -⟩ := hc'
  exact Except.ok.inj (((finishes_iff ha).mp hf).2.1.symm.trans ((finishes_iff ha).mp hf').2.1)

/-- The suite passes just if all goes well and the status is zero. A failed run is no failure of the set-up just if
all went well but for the status. -/
theorem run_verdict (h : x.engine? program endpoint request config = some engine) (t : Tree)
    (ping : Except ClientError Reply) :
    let outcome := (Cycle.run t endpoint ping engine request config).outcome.bind Outcome.verdict
    ((∃ o, outcome = .ok o) ↔ Concludes x t endpoint ping request config 0) ∧
      ∀ e, outcome = .error e →
        (e.isSetup = false ↔ ∃ status, status ≠ 0 ∧ Concludes x t endpoint ping request config status) := by
  have ha := answers_of_engine? h
  obtain ⟨write, hwrite⟩ := Cycle.exists_keeper_eq_persist
  have hkept (log : Bytes) : (Cycle.persist t (Tags.logPath config.logDir request.tags) log).1 = .ok () ↔
      (write t (Tags.logPath config.logDir request.tags) log).1 = none := by
    simp only [← hwrite, Cycle.Writer.keeper]
    cases (write t (Tags.logPath config.logDir request.tags) log).1 <;> simp
  have hping : Cycle.pingFailure ping = none ↔ Cycle.answered ping = true := by
    rcases ping with e | reply <;> simp [Cycle.pingFailure, Cycle.answered]
  have hconcludes (status : Int) : Concludes x t endpoint ping request config status ↔ ∃ id log,
      Cycle.Succeeds write t ping engine (Tags.logPath config.logDir request.tags) id status log := by
    simp only [Concludes, finishes_iff ha, hkept, ← hping]
    constructor
    · rintro ⟨hp, id, log, ⟨hs, hw, hl⟩, hk⟩
      exact ⟨id, log, hp, ((start_eq_ok_iff ha).mp hs).1, hs, hw, hl, hk⟩
    · rintro ⟨id, log, hp, -, hs, hw, hl, hk⟩
      exact ⟨hp, id, log, ⟨hs, hw, hl⟩, hk⟩
  have hrun : Cycle.run t endpoint ping engine request config =
      Cycle.runKeeping write.keeper t endpoint ping engine request config := by rw [hwrite]; rfl
  rw [hrun]
  refine ⟨(Cycle.verdict_ok_iff rfl).trans (hconcludes 0).symm, fun e he => ?_⟩
  rw [(Cycle.isSetup_verdict_iff rfl (impartial_of_engine? h) he).1]
  simp only [hconcludes]
  constructor
  · rintro ⟨id, status, log, hs, hne⟩
    exact ⟨status, hne, id, log, hs⟩
  · rintro ⟨status, hne, id, log, hs⟩
    exact ⟨id, status, log, hs, hne⟩

theorem run_log (h : x.engine? program endpoint request config = some engine) (t : Tree)
    (ping : Except ClientError Reply) :
    let after := (Cycle.run t endpoint ping engine request config).tree
    let path := Tags.logPath config.logDir request.tags
    (∀ id log, Cycle.answered ping = true → Logs x endpoint request config id log →
        after = (Cycle.persist t path log).2 ∧ ((Cycle.persist t path log).1 = .ok () →
          ∃ l, after.locate path = .ok l ∧ after.fileAt? l = some { content := .octets log })) ∧
      ((Cycle.answered ping = true → ∀ id log, ¬ Logs x endpoint request config id log) → after = t) := by
  intro after path
  have ha := answers_of_engine? h
  let trial : Cycle.Trial := { endpoint, ping, engine, request, config }
  have hafter : after = _ := trial.after_eq t
  have hlog (log : Bytes) : trial.log? = some log ↔
      Cycle.answered ping = true ∧ ∃ id, Logs x endpoint request config id log := by
    simp only [logs_iff ha]
    rw [Cycle.Trial.log?, Cycle.started, Cycle.built]
    cases hs : engine.start with
    | error e => simp [trial, Except.isOk, Except.toBool]
    | ok id =>
      have hb := ((start_eq_ok_iff ha).mp hs).1
      cases engine.logs <;> simp [trial, hb, Except.isOk, Except.toBool, Except.toOption]
  constructor
  · intro id log hp hl
    rw [(hlog log).mpr ⟨hp, id, hl⟩] at hafter
    rw [hafter]
    exact ⟨rfl, (Cycle.persist_effect t path log).2.2⟩
  · intro hno
    have hnone : trial.log? = none := by
      refine Option.eq_none_iff_forall_ne_some.mpr fun log hl => ?_
      obtain ⟨hp, id, hl⟩ := (hlog log).mp hl
      exact hno hp id log hl
    rw [hafter, hnone]

end Runs

end Docker

end Conformance
