import Conformance.Proofs.Run.Lifecycle

/-! What a run comes to: the first failure of its steps in a fixed order, or a finished container, whose status alone
is the verdict. -/

namespace Conformance

def Engine.Impartial (engine : Engine) : Prop :=
  ∀ status log, engine.build ≠ .error (.conformanceFailed status log) ∧
    engine.start ≠ .error (.conformanceFailed status log) ∧ engine.wait ≠ .error (.conformanceFailed status log) ∧
    engine.logs ≠ .error (.conformanceFailed status log)

lemma RunError.isSetup_eq_false_iff {e : RunError} :
    e.isSetup = false ↔ ∃ status log, e = .conformanceFailed status log := by
  cases e <;> simp [RunError.isSetup]

def Event.command? : Event → Option (List String)
  | .run spec => some spec.command
  | _ => none

namespace Cycle

abbrev Writer := Tree → Path → Bytes → Option String × Tree

def Writer.keeper (write : Writer) : Keeper := fun t path log =>
  (match (write t path log).1 with
    | none => .ok ()
    | some cause => .error (.logWrite path cause), (write t path log).2)

def cause? : Except RunError Unit → Option String
  | .error (.logWrite _ cause) => some cause
  | _ => none

lemma exists_keeper_eq_persist : ∃ write : Writer, write.keeper = persist := by
  refine ⟨fun t path log => (cause? (persist t path log).1, (persist t path log).2), ?_⟩
  funext t path log
  simp only [Writer.keeper, persist]
  repeat' split
  all_goals simp_all [cause?]

variable (write : Writer) (keeper : Keeper) (t : Tree) (endpoint : Endpoint) (ping : Except ClientError Reply)
variable (engine : Engine) (request : Request) (config : Config)

def failure {α : Type} : Except RunError α → Option RunError
  | .ok _ => none
  | .error e => some e

def pingFailure : Except ClientError Reply → Option RunError
  | .error e => some (.client e)
  | .ok reply => if reply.isPong then none else some (.preflight ("unexpected PING reply " ++ reply.shown))

def failures (path : Path) : List (Option RunError) :=
  [pingFailure ping, failure engine.build, failure engine.start,
    (match engine.logs with
      | .ok log => (write t path log).1.map (.logWrite path)
      | .error _ => none),
    failure engine.wait, failure engine.logs]

def firstFailure (path : Path) : Option RunError :=
  (failures write t ping engine path).findSome? id

structure Succeeds (path : Path) (id : String) (status : Int) (log : Bytes) : Prop where
  ping : pingFailure ping = none
  build : engine.build = .ok ()
  start : engine.start = .ok id
  wait : engine.wait = .ok status
  logs : engine.logs = .ok log
  written : (write t path log).1 = none

def verdict : Except RunError Outcome :=
  (runKeeping keeper t endpoint ping engine request config).outcome.bind Outcome.verdict

variable {write keeper t endpoint ping engine request config}

lemma failure_eq_some_iff {α : Type} {r : Except RunError α} {e : RunError} : failure r = some e ↔ r = .error e := by
  cases r <;> simp [failure]

lemma failure_eq_none_iff {α : Type} {r : Except RunError α} : failure r = none ↔ ∃ a, r = .ok a := by
  cases r <;> simp [failure]

lemma failure_bind {α β : Type} {r : Except RunError α} {f : α → Except RunError β} {later : Option RunError}
    (h : ∀ a, failure (f a) = later) : failure (r.bind f) = (failure r).or later := by
  cases r with
  | error e => rfl
  | ok a => exact h a

lemma findSome?_id_cons {α : Type} (x : Option α) (l : List (Option α)) :
    (x :: l).findSome? id = x.or (l.findSome? id) := by
  cases x <;> rfl

lemma failure_preflight : failure (Instance.preflight ping) = pingFailure ping := by
  cases ping with
  | error e => rfl
  | ok reply => cases h : reply.isPong <;> simp [Instance.preflight, pingFailure, failure, h]

lemma outcome_runKeeping : (runKeeping keeper t endpoint ping engine request config).outcome =
    (Instance.preflight ping).bind fun _ => engine.build.bind fun _ => engine.start.bind fun id =>
      (match engine.logs with
        | .ok log => (keeper t (Tags.logPath config.logDir request.tags) log).1
        | .error _ => .ok ()).bind fun _ =>
      engine.wait.bind fun status => engine.logs.bind fun log =>
        .ok (finished endpoint id engine request config status log) := by
  rw [runKeeping_eq, perform_conduct]
  cases Instance.preflight ping with
  | error e => rfl
  | ok _ =>
    cases engine.build with
    | error e => rfl
    | ok _ =>
      cases engine.start with
      | error e => rfl
      | ok id =>
        simp only [perform_collect]
        cases engine.logs with
        | error e => rfl
        | ok log =>
          simp only [Except.bind, Progress.note]
          cases engine.wait <;> rfl

lemma firstFailure_eq_none_iff {path : Path} :
    firstFailure write t ping engine path = none ↔
      ∃ id status log, Succeeds write t ping engine path id status log := by
  constructor
  · intro h
    simp only [firstFailure, failures, List.findSome?_eq_none_iff, List.mem_cons, List.not_mem_nil, or_false,
      forall_eq_or_imp, forall_eq, id_eq] at h
    obtain ⟨hp, hb, hs, hk, hw, hl⟩ := h
    obtain ⟨_, hb⟩ := failure_eq_none_iff.mp hb
    obtain ⟨id, hs⟩ := failure_eq_none_iff.mp hs
    obtain ⟨status, hw⟩ := failure_eq_none_iff.mp hw
    obtain ⟨log, hl⟩ := failure_eq_none_iff.mp hl
    exact ⟨id, status, log, hp, hb, hs, hw, hl, by simpa [hl] using hk⟩
  · rintro ⟨id, status, log, h⟩
    simp [firstFailure, failures, failure, h.ping, h.build, h.start, h.wait, h.logs, h.written]

lemma outcome_of_succeeds {id : String} {status : Int} {log : Bytes}
    (h : Succeeds write t ping engine (Tags.logPath config.logDir request.tags) id status log) :
    (runKeeping write.keeper t endpoint ping engine request config).outcome =
      .ok (finished endpoint id engine request config status log) := by
  obtain ⟨_, hp⟩ := failure_eq_none_iff.mp (failure_preflight.trans h.ping)
  simp only [outcome_runKeeping, hp, h.build, h.start, h.wait, h.logs, Writer.keeper, h.written, Except.bind]

lemma failure_outcome : failure (runKeeping write.keeper t endpoint ping engine request config).outcome =
    firstFailure write t ping engine (Tags.logPath config.logDir request.tags) := by
  have hlogs (id : String) (status : Int) : failure (engine.logs.bind fun log =>
      .ok (finished endpoint id engine request config status log)) = failure engine.logs := by
    cases engine.logs <;> rfl
  -- What a step gives does not decide whether or how a later one fails.
  refine (congrArg failure outcome_runKeeping).trans ((failure_bind fun _ => failure_bind fun _ => failure_bind fun id =>
    failure_bind fun _ => failure_bind fun status => hlogs id status).trans ?_)
  simp only [failure_preflight, firstFailure, failures, findSome?_id_cons, List.findSome?_nil, Option.or_none]
  cases hl : engine.logs with
  | error e => rfl
  | ok log =>
    cases hw : (write t (Tags.logPath config.logDir request.tags) log).1 <;>
      simp [Writer.keeper, hw, failure]

lemma outcome_of_firstFailure {e : RunError}
    (h : firstFailure write t ping engine (Tags.logPath config.logDir request.tags) = some e) :
    (runKeeping write.keeper t endpoint ping engine request config).outcome = .error e :=
  failure_eq_some_iff.mp (failure_outcome.trans h)

lemma isSetup_of_firstFailure {path : Path} {e : RunError} (hi : engine.Impartial)
    (h : firstFailure write t ping engine path = some e) : e.isSetup = true := by
  rw [← Bool.not_eq_false, RunError.isSetup_eq_false_iff]
  rintro ⟨status, log, rfl⟩
  obtain ⟨hb, hs, hw, hl⟩ := hi status log
  obtain ⟨f, hf, he⟩ := List.exists_of_findSome?_eq_some h
  obtain rfl : f = some (.conformanceFailed status log) := he
  simp only [failures, List.mem_cons, List.not_mem_nil, or_false] at hf
  rcases hf with hf | hf | hf | hf | hf | hf
  · rcases ping with e | reply
    · cases hf
    · rw [pingFailure] at hf
      split at hf <;> cases hf
  · exact hb (failure_eq_some_iff.mp hf.symm)
  · exact hs (failure_eq_some_iff.mp hf.symm)
  · cases hg : engine.logs with
    | error e => simp [hg] at hf
    | ok log' => cases hc : (write t path log').1 <;> simp [hg, hc] at hf
  · exact hw (failure_eq_some_iff.mp hf.symm)
  · exact hl (failure_eq_some_iff.mp hf.symm)

lemma Succeeds.unique {path : Path} {id id' : String} {status status' : Int} {log log' : Bytes}
    (h : Succeeds write t ping engine path id status log) (h' : Succeeds write t ping engine path id' status' log') :
    id = id' ∧ status = status' ∧ log = log' :=
  ⟨Except.ok.inj (h.start.symm.trans h'.start), Except.ok.inj (h.wait.symm.trans h'.wait),
    Except.ok.inj (h.logs.symm.trans h'.logs)⟩

lemma verdict_of_firstFailure {e : RunError}
    (h : firstFailure write t ping engine (Tags.logPath config.logDir request.tags) = some e) :
    verdict write.keeper t endpoint ping engine request config = .error e := by
  rw [verdict, outcome_of_firstFailure h]
  rfl

lemma verdict_of_succeeds {id : String} {status : Int} {log : Bytes}
    (h : Succeeds write t ping engine (Tags.logPath config.logDir request.tags) id status log) :
    verdict write.keeper t endpoint ping engine request config =
      if status = 0 then .ok (finished endpoint id engine request config status log)
      else .error (.conformanceFailed status (Tags.logPath config.logDir request.tags)) := by
  rw [verdict, outcome_of_succeeds h]
  simp [Except.bind, Outcome.verdict, Outcome.passed, finished]

lemma verdict_ok_iff {path : Path} (hp : path = Tags.logPath config.logDir request.tags) :
    (∃ o, verdict write.keeper t endpoint ping engine request config = .ok o) ↔
      ∃ id log, Succeeds write t ping engine path id 0 log := by
  subst hp
  constructor
  · rintro ⟨o, ho⟩
    cases hf : firstFailure write t ping engine (Tags.logPath config.logDir request.tags) with
    | some e =>
      rw [verdict_of_firstFailure hf] at ho
      cases ho
    | none =>
      obtain ⟨id, status, log, h⟩ := firstFailure_eq_none_iff.mp hf
      rw [verdict_of_succeeds h] at ho
      split at ho
      · next hs => exact ⟨id, log, hs ▸ h⟩
      · cases ho
  · rintro ⟨id, log, h⟩
    rw [verdict_of_succeeds h]
    exact ⟨_, rfl⟩

lemma isSetup_verdict_iff {path : Path} {e : RunError} (hp : path = Tags.logPath config.logDir request.tags)
    (hi : engine.Impartial) (he : verdict write.keeper t endpoint ping engine request config = .error e) :
    (e.isSetup = false ↔ ∃ id status log, Succeeds write t ping engine path id status log ∧ status ≠ 0) ∧
      ∀ id status log, Succeeds write t ping engine path id status log → e = .conformanceFailed status path := by
  subst hp
  cases hf : firstFailure write t ping engine (Tags.logPath config.logDir request.tags) with
  | some e' =>
    have hno (id status log) :
        ¬ Succeeds write t ping engine (Tags.logPath config.logDir request.tags) id status log := by
      intro h
      have hn := firstFailure_eq_none_iff.mpr ⟨id, status, log, h⟩
      rw [hf] at hn
      cases hn
    rw [verdict_of_firstFailure hf] at he
    cases he
    simp [hno, isSetup_of_firstFailure hi hf]
  | none =>
    obtain ⟨id, status, log, h⟩ := firstFailure_eq_none_iff.mp hf
    rw [verdict_of_succeeds h] at he
    split at he
    · cases he
    · next hs =>
      cases he
      refine ⟨⟨fun _ => ⟨id, status, log, h, hs⟩, fun _ => rfl⟩, fun id' status' log' h' => ?_⟩
      rw [(h.unique h').2.1]

lemma command_of_succeeds {path : Path} {id : String} {status : Int} {log : Bytes}
    (h : Succeeds write t ping engine path id status log) :
    (runKeeping keeper t endpoint ping engine request config).events.filterMap Event.command? =
      [command endpoint request config] := by
  have ha : answered ping = true := by
    obtain ⟨_, hp⟩ := failure_eq_none_iff.mp (failure_preflight.trans h.ping)
    rw [← isOk_preflight, hp]
    rfl
  have hb : built ping engine = true := by simp [built, ha, h.build, Except.isOk, Except.toBool]
  have hs : started ping engine = true := by simp [started, hb, h.start, Except.isOk, Except.toBool]
  simp [events_runKeeping, calls, ha, hb, hs, List.filterMap_cons, Event.command?, command, vendorCommand]

theorem runKeeping_verdict (write : Writer) (t : Tree) (endpoint : Endpoint) (ping : Except ClientError Reply)
    (engine : Engine) (request : Request) (config : Config) :
    let report := runKeeping write.keeper t endpoint ping engine request config
    let path := config.logDir.join (.ofText (Tags.logName request.tags))
    (∀ e, firstFailure write t ping engine path = some e → report.outcome = .error e) ∧
      (firstFailure write t ping engine path = none ↔
        ∃ id status log, Succeeds write t ping engine path id status log) ∧
      (∀ id status log, Succeeds write t ping engine path id status log →
        ∃ command, report.events.filterMap Event.command? = [command] ∧
          report.outcome = .ok {
            containerId := id
            tags := Tags.compose request.tags
            command
            exitStatus := status
            logPath := path
            logBytes := log.length
            elapsed := engine.elapsed }) ∧
      (engine.Impartial →
        ((∃ o, report.outcome.bind Outcome.verdict = .ok o) ↔
          ∃ id log, Succeeds write t ping engine path id 0 log) ∧
        ∀ e, report.outcome.bind Outcome.verdict = .error e →
          (e.isSetup = false ↔ ∃ id status log, Succeeds write t ping engine path id status log ∧ status ≠ 0) ∧
          ∀ id status log, Succeeds write t ping engine path id status log → e = .conformanceFailed status path) ∧
      ∃ persisting : Writer, run = runKeeping persisting.keeper := by
  intro report path
  refine ⟨fun e => outcome_of_firstFailure, firstFailure_eq_none_iff, ?_, ?_, ?_⟩
  · intro id status log h
    exact ⟨_, command_of_succeeds h, outcome_of_succeeds h⟩
  · intro hi
    exact ⟨verdict_ok_iff rfl, fun e => isSetup_verdict_iff rfl hi⟩
  · obtain ⟨persisting, h⟩ := exists_keeper_eq_persist
    refine ⟨persisting, ?_⟩
    rw [h]
    rfl

theorem runKeeping_verdict_bad_status :
    let write : Writer := fun t _ _ => (none, t)
    let engine : Engine := { start := .ok "f00d", wait := .ok 3, logs := .ok (Octets.ofString "failed") }
    let endpoint : Endpoint := ⟨"localhost", 6379⟩
    let ping : Except ClientError Reply := .ok (.status "PONG")
    let path := (Path.ofText ".").join (.ofText (Tags.logName "string"))
    engine.Impartial ∧ Succeeds write {} ping engine path "f00d" 3 (Octets.ofString "failed") ∧
      (runKeeping write.keeper {} endpoint ping engine ⟨"string", []⟩ {}).outcome.bind Outcome.verdict =
        .error (.conformanceFailed 3 path) := by
  intro write engine endpoint ping path
  have hi : engine.Impartial := by
    intro status log
    simp [engine]
  have hs : Succeeds write {} ping engine path "f00d" 3 (Octets.ofString "failed") := ⟨rfl, rfl, rfl, rfl, rfl, rfl⟩
  obtain ⟨_, _, _, hverdict, _⟩ := runKeeping_verdict write {} endpoint ping engine ⟨"string", []⟩ {}
  obtain ⟨hok, herror⟩ := hverdict hi
  refine ⟨hi, hs, ?_⟩
  cases hv : (runKeeping write.keeper {} endpoint ping engine ⟨"string", []⟩ {}).outcome.bind Outcome.verdict with
  | ok o =>
    obtain ⟨_, _, h⟩ := hok.mp ⟨o, hv⟩
    cases h.wait
  | error e => rw [(herror e hv).2 _ _ _ hs]

end Cycle

end Conformance
