import Conformance.Proofs.Run.Containers
import Conformance.Proofs.Run.Verdict
import Conformance.Run.Executions

/-! The engine that a run sees through a program on the command line. Each of its answers is that of a session of the
program, so what has to come of the program for a step to succeed is known. -/

namespace Conformance.Docker

def Ends (b : Except SystemError Execution) : Prop :=
  ∀ p, b = .ok p → p.ending ≠ .never

section Outcomes

variable {id : String} {p : Execution} {s : Session} {c : Call} {b : Except SystemError Execution} {args : List Bytes}

lemma isSetup_of_read {e : RunError} (h : read id p c = .error e) : e.isSetup = true := by
  cases c with
  | build context tag =>
    rw [read] at h
    split at h <;> cases h
    rfl
  | run spec =>
    rw [read] at h
    split at h
    · cases h
      rfl
    · split at h <;> cases h
      rfl
  | wait limit =>
    rcases read_wait_cases id p limit with ⟨n, hn⟩ | ⟨reason, he⟩
    · cases hn.symm.trans h
    · cases he.symm.trans h
      rfl
  | logs =>
    rw [read] at h
    split at h <;> cases h
    rfl
  | remove =>
    rw [read] at h
    split at h <;> cases h
    rfl

lemma isSetup_of_perform {e : RunError} (h : perform id p c = some (.error e)) : e.isSetup = true := by
  rw [perform.eq_def] at h
  split at h
  · split at h
    · exact isSetup_of_read (Option.some.inj h)
    · cases h
      rfl
  · split at h
    · cases h
    · exact isSetup_of_read (Option.some.inj h)

lemma outcome?_call (hargs : Docker.args s.container c = some args) : (s.call c b).1.outcome? =
    match Session.start args b with
    | .error e => some (.error (.spawn s.program.shown e.message))
    | .ok p => perform (s.container.getD "") p c := by
  cases h : Session.start args b with
  | error e => rw [Session.call_of_start_error hargs h]; rfl
  | ok p => rw [Session.call_of_start_ok hargs h]; rfl

lemma isSetup_of_call {e : RunError} (h : (s.call c b).1.outcome? = some (.error e)) : e.isSetup = true := by
  cases hargs : Docker.args s.container c with
  | none => simp [Session.call, hargs, Result.outcome?] at h
  | some args =>
    rw [outcome?_call hargs] at h
    split at h
    · cases h
      rfl
    · exact isSetup_of_perform h

lemma call_fst_eq {program : Path} {container : Option String} (hargs : Docker.args none c = some args) :
    (Session.call { program, container } c b).1 = (Session.call { program } c b).1 := by
  have hany : Docker.args container c = some args ∧ ∀ id p, perform id p c = perform "" p c := by
    cases c <;> first | exact ⟨hargs, fun _ _ => rfl⟩ | cases hargs
  cases h : Session.start args b with
  | error e => rw [Session.call_of_start_error hany.1 h, Session.call_of_start_error hargs h]
  | ok p =>
    rw [Session.call_of_start_ok hany.1 h, Session.call_of_start_ok hargs h]
    exact congrArg _ (hany.2 _ p)

lemma call_snd (s : Session) (c : Call) (b : Except SystemError Execution) : (s.call c b).2 =
    match (s.call c b).1.outcome? with
    | some (.ok (.started id)) => { s with container := some id }
    | _ => s := by
  cases hargs : Docker.args s.container c with
  | none => simp [Session.call, hargs, Result.outcome?]
  | some args =>
    cases h : Session.start args b with
    | error e => simp [Session.call_of_start_error hargs h, Result.outcome?]
    | ok p =>
      rw [Session.call_of_start_ok hargs h, Session.call, hargs]
      simp only [h, Result.outcome?]
      split <;> simp_all

lemma call_snd_of_ne {α : Type} {whole : α → Answer} (hwhole : ∀ a id, whole a ≠ .started id) {e : Except RunError α}
    (h : (s.call c b).1.outcome? = some (e.map whole)) : (s.call c b).2 = s := by
  rw [call_snd, h]
  cases e with
  | error e => rfl
  | ok a =>
    simp only [Except.map]
    split
    · next id hid => exact absurd (Except.ok.inj (Option.some.inj hid)) (hwhole a id)
    · rfl

lemma outcomeAs?_eq_some {α : Type} {part : Answer → Option α} {whole : α → Answer}
    (hpart : ∀ answer a, part answer = some a → answer = whole a) {r : Result} {e : Except RunError α}
    (h : r.outcomeAs? part = some e) : r.outcome? = some (e.map whole) := by
  rw [Result.outcomeAs?] at h
  split at h
  · next answer hr =>
    obtain ⟨a, ha, rfl⟩ := Option.map_eq_some_iff.mp h
    rw [hr, hpart answer a ha]
    rfl
  · next hr =>
    cases h
    rw [hr]
    rfl
  · cases h

lemma perform_eq_none_iff : perform id p c = none ↔ p.ending = .never ∧ ∀ limit, c ≠ .wait (some limit) := by
  rw [perform.eq_def]
  split
  · simp
  · next hc => simpa using fun _ => hc

lemma exists_outcomeAs? {α : Type} (part : Answer → Option α) (hargs : Docker.args s.container c = some args)
    (hpart : ∀ answer, c.Expects answer → (part answer).isSome = true)
    (hb : ∀ p, b = .ok p → p.ending = .never → ∃ limit, c = .wait (some limit)) :
    ∃ e, (s.call c b).1.outcomeAs? part = some e := by
  rw [Result.outcomeAs?, outcome?_call hargs]
  cases h : Session.start args b with
  | error e => exact ⟨_, rfl⟩
  | ok p =>
    simp only
    cases hp : perform (s.container.getD "") p c with
    | none =>
      obtain ⟨hnever, hc⟩ := perform_eq_none_iff.mp hp
      obtain ⟨limit, rfl⟩ := hb p (Session.start_eq_ok.mp h).1 hnever
      exact absurd rfl (hc limit)
    | some answer =>
      rcases answer with e | answer
      · exact ⟨_, rfl⟩
      · obtain ⟨a, ha⟩ := Option.isSome_iff_exists.mp (hpart answer (expects_of_perform hp))
        exact ⟨.ok a, by simp only [ha, Option.map_some]⟩

lemma succeeds_iff_of_outcome? {α : Type} {whole : α → Answer} (hw : Function.Injective whole) {r : Result}
    {e : Except RunError α} (h : r.outcome? = some (e.map whole)) {a : α} : e = .ok a ↔ r.Succeeds (whole a) := by
  have hr {answer : Answer} : r.Succeeds answer ↔ r.outcome? = some (.ok answer) := by
    cases r <;> simp [Result.Succeeds, Result.outcome?]
  rw [hr, h]
  cases e <;> simp [Except.map, hw.eq_iff]

lemma perform_wait_eq_exited {limit : Option Duration} {n : Int} :
    perform id p (.wait limit) = some (.ok (.exited n)) ↔
      p.ending = .exited 0 ∧ Tells p.stdout n ∧ ∀ l, limit = some l → p.seenEnded l.total 0 = true := by
  cases limit with
  | none =>
    rw [perform_eq_ok (by simp) (show read id p (.wait none) = if p.succeeded then _ else _ from rfl)]
    cases hs : status p.stdout <;> simp [Except.map, ← status_eq_ok, hs]
  | some l =>
    rw [perform]
    cases hs : p.seenEnded l.total 0 with
    | false => simp [hs]
    | true => simp [read_wait_eq_ok, hs]

end Outcomes

structure Answers (x : Executions) (program : Path) (endpoint : Endpoint) (request : Request) (config : Config)
    (engine : Engine) : Prop where
  build : (Session.call { program } (.build config.context config.image) x.build).1.outcome? =
    some (engine.build.map fun _ => .done)
  start : engine.build = .ok () →
    (Session.call { program } (.run (Cycle.spec endpoint request config)) x.run).1.outcome? =
      some (engine.start.map .started)
  stopped {e : RunError} : engine.build = .error e → engine.start = .error e
  unused {e : RunError} : engine.start = .error e → engine.wait = .ok 0 ∧ engine.logs = .ok []
  wait {id : String} : engine.start = .ok id →
    (Session.call { program, container := some id } (.wait config.timeout) x.wait).1.outcome? =
      some (engine.wait.map .exited)
  logs {id : String} : engine.start = .ok id →
    (Session.call { program, container := some id } .logs x.logs).1.outcome? = some (engine.logs.map .log)
  remove {id : String} : engine.start = .ok id →
    (Session.call { program, container := some id } .remove x.remove).1.outcome? =
      some (engine.remove.map fun _ => .done)

section Engines

variable {x : Executions} {program : Path} {endpoint : Endpoint} {request : Request} {config : Config} {engine : Engine}

lemma eq_done {answer : Answer} {a : Unit} (h : answer.done? = some a) : answer = .done := by
  cases answer <;> simp_all [Answer.done?]

lemma eq_started {answer : Answer} {id : String} (h : answer.id? = some id) : answer = .started id := by
  cases answer <;> simp_all [Answer.id?]

lemma eq_exited {answer : Answer} {n : Int} (h : answer.status? = some n) : answer = .exited n := by
  cases answer <;> simp_all [Answer.status?]

lemma eq_log {answer : Answer} {bytes : Bytes} (h : answer.log? = some bytes) : answer = .log bytes := by
  cases answer <;> simp_all [Answer.log?]

lemma answers_of_engine? (h : x.engine? program endpoint request config = some engine) :
    Answers x program endpoint request config engine := by
  simp only [Executions.engine?, bind, Option.bind_eq_some_iff] at h
  obtain ⟨build, hb, h⟩ := h
  have hbuild := outcomeAs?_eq_some (fun _ _ => eq_done) hb
  cases build with
  | error e =>
    cases h
    exact ⟨hbuild, nofun, fun hb => congrArg _ (Except.error.inj hb), fun _ => ⟨rfl, rfl⟩, nofun, nofun, nofun⟩
  | ok _ =>
    simp only [Option.bind_eq_some_iff] at h
    obtain ⟨start, hs, h⟩ := h
    have hstart := outcomeAs?_eq_some (fun _ _ => eq_started) hs
    cases start with
    | error e =>
      cases h
      exact ⟨hbuild, fun _ => hstart, nofun, fun _ => ⟨rfl, rfl⟩, nofun, nofun, nofun⟩
    | ok id =>
      have hbusy := call_snd { program } (.run (Cycle.spec endpoint request config)) x.run
      rw [hstart] at hbusy
      simp only [Except.map] at hbusy
      simp only [Option.bind_eq_some_iff, hbusy] at h
      obtain ⟨wait, hw, logs, hl, remove, hr, h⟩ := h
      cases h
      refine ⟨hbuild, fun _ => hstart, nofun, nofun, ?_, ?_, ?_⟩
      · rintro _ ⟨⟩
        exact outcomeAs?_eq_some (fun _ _ => eq_exited) hw
      · rintro _ ⟨⟩
        exact outcomeAs?_eq_some (fun _ _ => eq_log) hl
      · rintro _ ⟨⟩
        exact outcomeAs?_eq_some (fun _ _ => eq_done) hr

theorem impartial_of_engine? (h : x.engine? program endpoint request config = some engine) : engine.Impartial := by
  have ha := answers_of_engine? h
  have hverdict {status : Int} {log : Path} {s : Session} {c : Call} {b : Except SystemError Execution} :
      (s.call c b).1.outcome? ≠ some (.error (.conformanceFailed status log)) :=
    fun hc => Bool.false_ne_true (isSetup_of_call hc)
  -- A step that is not got to fails as the one before it did, if at all.
  have hbuild (status : Int) (log : Path) : engine.build ≠ .error (.conformanceFailed status log) := by
    intro hb
    have hc := ha.build
    rw [hb] at hc
    exact hverdict hc
  refine fun status log => ⟨hbuild status log, fun hs => ?_, fun hw => ?_, fun hl => ?_⟩
  · cases hb : engine.build with
    | error e =>
      obtain rfl := Except.error.inj ((ha.stopped hb).symm.trans hs)
      exact hbuild status log hb
    | ok _ =>
      have hc := ha.start hb
      rw [hs] at hc
      exact hverdict hc
  · cases hs : engine.start with
    | error e => cases (ha.unused hs).1.symm.trans hw
    | ok id =>
      have hc := ha.wait hs
      rw [hw] at hc
      exact hverdict hc
  · cases hs : engine.start with
    | error e => cases (ha.unused hs).2.symm.trans hl
    | ok id =>
      have hc := ha.logs hs
      rw [hl] at hc
      exact hverdict hc

/-- A run sees an engine unless it waits for a program that goes on forever. -/
theorem exists_engine (program : Path) (endpoint : Endpoint) (request : Request) {config : Config}
    (hb : Ends x.build) (hr : Ends x.run) (hw : config.timeout = none → Ends x.wait) (hl : Ends x.logs)
    (hm : Ends x.remove) : ∃ engine, x.engine? program endpoint request config = some engine := by
  obtain ⟨build, hbuild⟩ := exists_outcomeAs? (s := { program }) (c := .build config.context config.image)
    (b := x.build) Answer.done? rfl (by rintro (_ | _ | _ | _) ⟨⟩; rfl) fun p hp hn => absurd hn (hb p hp)
  rw [Executions.engine?]
  simp only [hbuild, bind, Option.bind_some]
  cases build with
  | error e => exact ⟨_, rfl⟩
  | ok _ =>
    obtain ⟨start, hstart⟩ := exists_outcomeAs? (s := { program }) (c := .run (Cycle.spec endpoint request config))
      (b := x.run) Answer.id? rfl (by rintro (_ | _ | _ | _) ⟨⟩; rfl)
      fun p hp hn => absurd hn (hr p hp)
    have hbusy := call_snd { program } (.run (Cycle.spec endpoint request config)) x.run
    rw [outcomeAs?_eq_some (fun _ _ => eq_started) hstart] at hbusy
    simp only [hstart, Option.bind_some]
    cases start with
    | error e => exact ⟨_, rfl⟩
    | ok id =>
      simp only [Except.map] at hbusy
      obtain ⟨wait, hwait⟩ := exists_outcomeAs? (s := { program, container := some id }) (c := .wait config.timeout)
        (b := x.wait) Answer.status? rfl (by rintro (_ | _ | _ | _) ⟨⟩; rfl) fun p hp hn => by
          cases hlimit : config.timeout with
          | none => exact absurd hn (hw hlimit p hp)
          | some limit => exact ⟨limit, rfl⟩
      obtain ⟨logs, hlogs⟩ := exists_outcomeAs? (s := { program, container := some id }) (c := .logs) (b := x.logs)
        Answer.log? rfl (by rintro (_ | _ | _ | _) ⟨⟩; rfl) fun p hp hn => absurd hn (hl p hp)
      obtain ⟨remove, hremove⟩ := exists_outcomeAs? (s := { program, container := some id }) (c := .remove)
        (b := x.remove) Answer.done? rfl (by rintro (_ | _ | _ | _) ⟨⟩; rfl)
        fun p hp hn => absurd hn (hm p hp)
      simp only [hbusy, hwait, hlogs, hremove, Option.bind_some]
      exact ⟨_, rfl⟩

section Steps

variable (ha : Answers x program endpoint request config engine)
include ha

lemma build_eq_ok_iff : engine.build = .ok () ↔
    ∃ p, EndsWell (["build", "-t", config.image].map Octets.ofString ++ [config.context.octets]) x.build p := by
  rw [succeeds_iff_of_outcome? (fun _ _ _ => rfl) ha.build, Session.call_succeeds_iff rfl]
  simp only [perform_build_eq_done, EndsWell]

lemma start_eq_ok_iff {id : String} : engine.start = .ok id ↔
    engine.build = .ok () ∧ Starts (.run (Cycle.spec endpoint request config), x.run) id := by
  cases hb : engine.build with
  | error e => simp [ha.stopped hb]
  | ok _ =>
    rw [succeeds_iff_of_outcome? (fun _ _ => Answer.started.inj) (ha.start hb), Session.call_succeeds_iff rfl]
    simp [perform_run_eq_started, Starts, EndsWell, and_assoc]

variable {id : String} (hs : engine.start = .ok id)
include hs

lemma wait_eq_ok_iff {n : Int} : engine.wait = .ok n ↔
    ∃ p, EndsWell (["wait", id].map Octets.ofString) x.wait p ∧ Tells p.stdout n ∧
      ∀ l, config.timeout = some l → p.seenEnded l.total 0 = true := by
  rw [succeeds_iff_of_outcome? (fun _ _ => Answer.exited.inj) (ha.wait hs), Session.call_succeeds_iff rfl]
  simp only [perform_wait_eq_exited, EndsWell, and_assoc]

lemma logs_eq_ok_iff {log : Bytes} : engine.logs = .ok log ↔
    ∃ p, EndsWell (["logs", id].map Octets.ofString) x.logs p ∧ log = p.stdout ++ p.stderr := by
  rw [succeeds_iff_of_outcome? (fun _ _ => Answer.log.inj) (ha.logs hs), Session.call_succeeds_iff rfl]
  simp only [perform_logs_eq_log, EndsWell, and_assoc]

end Steps

structure Logs (x : Executions) (endpoint : Endpoint) (request : Request) (config : Config) (id : String)
    (log : Bytes) : Prop where
  build : ∃ p, EndsWell (["build", "-t", config.image].map Octets.ofString ++ [config.context.octets]) x.build p
  run : Starts (.run (Cycle.spec endpoint request config), x.run) id
  logs : ∃ p, EndsWell (["logs", id].map Octets.ofString) x.logs p ∧ log = p.stdout ++ p.stderr

structure Finishes (x : Executions) (endpoint : Endpoint) (request : Request) (config : Config) (id : String)
    (status : Int) (log : Bytes) : Prop extends Logs x endpoint request config id log where
  wait : ∃ p, EndsWell (["wait", id].map Octets.ofString) x.wait p ∧ Tells p.stdout status ∧
    ∀ l, config.timeout = some l → p.seenEnded l.total 0 = true

section Finishing

variable (ha : Answers x program endpoint request config engine) {id : String} {status : Int} {log : Bytes}
include ha

lemma logs_iff : Logs x endpoint request config id log ↔ engine.start = .ok id ∧ engine.logs = .ok log := by
  have hstart : engine.start = .ok id ↔ _ := start_eq_ok_iff ha
  rw [build_eq_ok_iff ha] at hstart
  constructor
  · rintro ⟨hb, hr, hl⟩
    have hs := hstart.mpr ⟨hb, hr⟩
    exact ⟨hs, (logs_eq_ok_iff ha hs).mpr hl⟩
  · rintro ⟨hs, hl⟩
    obtain ⟨hb, hr⟩ := hstart.mp hs
    exact ⟨hb, hr, (logs_eq_ok_iff ha hs).mp hl⟩

lemma finishes_iff : Finishes x endpoint request config id status log ↔
    engine.start = .ok id ∧ engine.wait = .ok status ∧ engine.logs = .ok log := by
  constructor
  · rintro ⟨h, hw⟩
    obtain ⟨hs, hl⟩ := (logs_iff ha).mp h
    exact ⟨hs, (wait_eq_ok_iff ha hs).mpr hw, hl⟩
  · rintro ⟨hs, hw, hl⟩
    exact ⟨(logs_iff ha).mpr ⟨hs, hl⟩, (wait_eq_ok_iff ha hs).mp hw⟩

end Finishing

end Engines

end Conformance.Docker
