import Conformance.Proofs.Run.Waiting

namespace Conformance.Docker

abbrev Attempt := Call × Except SystemError Execution

def EndsWell (args : List Bytes) (b : Except SystemError Execution) (p : Execution) : Prop :=
  Session.start args b = .ok p ∧ p.ending = .exited 0

def Starts (a : Attempt) (id : String) : Prop :=
  ∃ spec p, a.1 = .run spec ∧ EndsWell (spec.runArgs.map Octets.ofString) a.2 p ∧
    (∃ c ∈ Octets.lenient p.stdout, Text.isBlank c = false) ∧ id = .ofList (Text.trim (Octets.lenient p.stdout))

def Current (attempts : List Attempt) (id : String) : Prop :=
  ∃ earlier run later, attempts = earlier ++ run :: later ∧ Starts run id ∧ ∀ a ∈ later, ∀ other, ¬ Starts a other

inductive Names (id : String) : Call → List String → Prop
  | wait (limit : Option Duration) : Names id (.wait limit) ["wait", id]
  | logs : Names id .logs ["logs", id]
  | remove : Names id .remove ["rm", "-f", id]

def Call.Expects : Call → Answer → Prop
  | .build _ _, .done | .run _, .started _ | .wait _, .exited _ | .logs, .log _ | .remove, .done => True
  | _, _ => False

def Result.Succeeds (result : Result) (answer : Answer) : Prop :=
  ∃ args, result = .answered args (some (.ok answer))

section Reading

variable {id : String} {p : Execution}

lemma trimmed_ne_empty_iff {output : Bytes} :
    trimmed output ≠ "" ↔ ∃ c ∈ Octets.lenient output, Text.isBlank c = false := by
  have he : trimmed output = "" ↔ ∀ c ∈ Octets.lenient output, Text.isBlank c = true := by
    rw [← Text.trim_eq_nil_iff, trimmed, ← String.toList_inj, String.toList_ofList]
    rfl
  rw [Ne, he]
  simp

lemma perform_eq_ok {c : Call} {answer : Answer} {result : Except RunError Answer} {e : RunError}
    (hc : ∀ limit, c ≠ .wait (some limit)) (hr : read id p c = if p.succeeded then result else .error e) :
    perform id p c = some (.ok answer) ↔ p.ending = .exited 0 ∧ result = .ok answer := by
  have hp : perform id p c = if p.ending = .never then none else some (read id p c) := by
    rw [perform]
    exact hc
  rw [hp, hr]
  by_cases hs : p.ending = .exited 0
  · simp [hs, succeeded_iff.mpr hs]
  · simp [hs, mt succeeded_iff.mp hs]

lemma perform_build_eq_done {context : Path} {tag : String} :
    perform id p (.build context tag) = some (.ok .done) ↔ p.ending = .exited 0 := by
  rw [perform_eq_ok (by simp) rfl]
  simp

lemma perform_remove_eq_done : perform id p .remove = some (.ok .done) ↔ p.ending = .exited 0 := by
  rw [perform_eq_ok (by simp) rfl]
  simp

lemma perform_logs_eq_log {bytes : Bytes} :
    perform id p .logs = some (.ok (.log bytes)) ↔ p.ending = .exited 0 ∧ bytes = p.stdout ++ p.stderr := by
  rw [perform_eq_ok (by simp) rfl]
  simp [eq_comm]

lemma perform_run_eq_started {spec : ContainerSpec} {new : String} :
    perform id p (.run spec) = some (.ok (.started new)) ↔ p.ending = .exited 0 ∧
      (∃ c ∈ Octets.lenient p.stdout, Text.isBlank c = false) ∧
      new = .ofList (Text.trim (Octets.lenient p.stdout)) := by
  have hr : read id p (.run spec) = if p.succeeded then
      if trimmed p.stdout = "" then .error (.startFailed "engine returned no container id")
      else .ok (.started (trimmed p.stdout))
    else .error (.startFailed (trimmed p.stderr)) := by
    rw [read]
    cases p.succeeded <;> rfl
  rw [perform_eq_ok (by simp) hr, ← trimmed_ne_empty_iff]
  refine and_congr_right fun _ => ?_
  by_cases hblank : trimmed p.stdout = ""
  · simp [hblank]
  · simp only [hblank, if_false, Except.ok.injEq, Answer.started.injEq, ne_eq, not_false_eq_true, true_and]
    exact eq_comm

lemma read_of_perform {c : Call} {answer : Answer} (h : perform id p c = some (.ok answer)) :
    read id p c = .ok answer := by
  rw [perform.eq_def] at h
  split at h
  · split at h
    · exact Option.some.inj h
    · cases h
  · split at h
    · cases h
    · exact Option.some.inj h

lemma expects_of_perform {c : Call} {answer : Answer} (h : perform id p c = some (.ok answer)) : c.Expects answer := by
  have hr := read_of_perform h
  cases c with
  | run spec =>
    rw [read] at hr
    split at hr
    · cases hr
    · split at hr <;> cases hr
      trivial
  | wait limit =>
    rcases read_wait_cases id p limit with ⟨n, hn⟩ | ⟨reason, he⟩
    · cases hn.symm.trans hr
      trivial
    · cases he.symm.trans hr
  | build context tag =>
    rw [read] at hr
    split at hr <;> cases hr
    trivial
  | logs =>
    rw [read] at hr
    split at hr <;> cases hr
    trivial
  | remove =>
    rw [read] at hr
    split at hr <;> cases hr
    trivial

lemma exists_run_of_started {c : Call} {new : String} (h : perform id p c = some (.ok (.started new))) :
    ∃ spec, c = .run spec := by
  have he := expects_of_perform h
  cases c with
  | run spec => exact ⟨spec, rfl⟩
  | _ => cases he

end Reading

namespace Session

def after (s : Session) (attempts : List Attempt) : Session :=
  attempts.foldl (fun s a => (s.call a.1 a.2).2) s

lemma getElem?_calls (s : Session) (earlier : List Attempt) (a : Attempt) (later : List Attempt) :
    (s.calls (earlier ++ a :: later))[earlier.length]? = some ((s.after earlier).call a.1 a.2).1 := by
  induction earlier generalizing s with
  | nil => rfl
  | cons b earlier ih => exact ih (s.call b.1 b.2).2

lemma start_eq_ok {args : List Bytes} {b : Except SystemError Execution} {p : Execution} :
    start args b = .ok p ↔ b = .ok p ∧ ∀ a ∈ args, 0 ∉ a := by
  have hnul : args.any (·.contains 0) = false ↔ ∀ a ∈ args, 0 ∉ a := by
    simp
  rw [start, ← hnul]
  cases args.any (·.contains 0) <;> simp

variable {s : Session} {c : Call} {b : Except SystemError Execution} {args : List Bytes}

lemma call_of_start_ok {p : Execution} (hargs : Docker.args s.container c = some args) (h : start args b = .ok p) :
    (s.call c b).1 = .answered args (perform (s.container.getD "") p c) := by
  rw [call, hargs]
  simp only [h]
  split <;> simp_all

lemma call_of_start_error {e : SystemError} (hargs : Docker.args s.container c = some args)
    (h : start args b = .error e) : s.call c b = (.notStarted (.spawn s.program.shown e.message), s) := by
  rw [call, hargs]
  simp only [h]

lemma call_succeeds_iff {answer : Answer} (hargs : Docker.args s.container c = some args) :
    (s.call c b).1.Succeeds answer ↔
      ∃ p, start args b = .ok p ∧ perform (s.container.getD "") p c = some (.ok answer) := by
  cases h : start args b with
  | error e => simp [call_of_start_error hargs h, Result.Succeeds]
  | ok p => simp [call_of_start_ok hargs h, Result.Succeeds]

lemma call_program (s : Session) (c : Call) (b : Except SystemError Execution) :
    (s.call c b).2.program = s.program := by
  rw [call]
  repeat' split
  all_goals rfl

lemma ended_well_of_starts {id : String} {p : Execution} (h : Starts (c, .ok p) id) :
    p.ending = .exited 0 ∧ ∃ c ∈ Octets.lenient p.stdout, Text.isBlank c = false := by
  obtain ⟨spec, q, -, ⟨hstart, hexit⟩, hout, -⟩ := h
  obtain rfl : p = q := Except.ok.inj (start_eq_ok.mp hstart).1
  exact ⟨hexit, hout⟩

lemma call_of_starts {id : String} (h : Starts (c, b) id) (s : Session) :
    (s.call c b).2 = { s with container := some id } := by
  obtain ⟨spec, p, rfl, ⟨hstart, hexit⟩, hout⟩ := h
  have hp : perform (s.container.getD "") p (.run spec) = some (.ok (.started id)) :=
    perform_run_eq_started.mpr ⟨hexit, hout⟩
  rw [call]
  simp only [Docker.args, hstart, hp]

lemma call_of_not_starts (h : ∀ id, ¬ Starts (c, b) id) (s : Session) : (s.call c b).2 = s := by
  rw [call]
  split
  · rfl
  · next args hargs =>
    split
    · rfl
    · next p hstart =>
      split
      · next id hp =>
        obtain ⟨spec, rfl⟩ := exists_run_of_started hp
        obtain rfl := Option.some.inj hargs
        obtain ⟨hexit, hout⟩ := perform_run_eq_started.mp hp
        exact absurd ⟨spec, p, rfl, ⟨hstart, hexit⟩, hout⟩ (h id)
      · rfl

lemma after_program (s : Session) (attempts : List Attempt) : (s.after attempts).program = s.program := by
  induction attempts generalizing s with
  | nil => rfl
  | cons a attempts ih => exact (ih _).trans (s.call_program a.1 a.2)

lemma after_of_not_starts {attempts : List Attempt} (h : ∀ a ∈ attempts, ∀ id, ¬ Starts a id) (s : Session) :
    s.after attempts = s := by
  induction attempts with
  | nil => rfl
  | cons a attempts ih =>
    rw [after, List.foldl_cons, call_of_not_starts (h a List.mem_cons_self)]
    exact ih fun x hx => h x (List.mem_cons_of_mem a hx)

lemma after_container {attempts : List Attempt} {id : String} (h : Current attempts id) (s : Session) :
    (s.after attempts).container = some id := by
  obtain ⟨earlier, run, later, rfl, hrun, hlater⟩ := h
  have hsplit : s.after (earlier ++ run :: later) = ((s.after earlier).call run.1 run.2).2.after later :=
    List.foldl_append
  rw [hsplit, after_of_not_starts hlater, call_of_starts hrun]

end Session

lemma Names.args_eq {id : String} {c : Call} {args : List String} (h : Names id c args) :
    Docker.args (some id) c = some (args.map Octets.ofString) := by
  cases h <;> rfl

lemma nul_mem_ofString (s : String) : 0 ∈ Octets.ofString s ↔ '\x00' ∈ s.toList :=
  Octets.ascii_mem_ofString (by decide) rfl s

lemma Names.start_eq_ok {id : String} {c : Call} {args : List String} (h : Names id c args)
    {b : Except SystemError Execution} {p : Execution} :
    Session.start (args.map Octets.ofString) b = .ok p ↔ b = .ok p ∧ '\x00' ∉ id.toList := by
  have hnul : (∀ a ∈ args.map Octets.ofString, 0 ∉ a) ↔ '\x00' ∉ id.toList := by
    cases h <;> simp [nul_mem_ofString]
  rw [Session.start_eq_ok, hnul]

lemma Names.start_nul {id : String} {c : Call} {args : List String} (h : Names id c args) (hnul : '\x00' ∈ id.toList)
    (b : Except SystemError Execution) : Session.start (args.map Octets.ofString) b = .error .nulInArgument := by
  refine if_pos ?_
  cases h <;> simp [nul_mem_ofString, hnul]

/-- In any sequence of calls, an image is built and a container is started or removed just if the program ends with
code 0, a container also needs a name. Calls on a container name the one of the last run that succeeded, and none
but it; no call can name one whose name has a NUL inside. Logs come as they are. -/
theorem calls_name_container (program : Path) (earlier : List Attempt) (c : Call) (b : Except SystemError Execution)
    (later : List Attempt) : ∃ result,
      (Session.calls { program } (earlier ++ (c, b) :: later))[earlier.length]? = some result ∧
      (∀ context tag, c = .build context tag →
        (result.Succeeds .done ↔ ∃ p, EndsWell (["build", "-t", tag].map Octets.ofString ++ [context.octets]) b p)) ∧
      (∀ spec, c = .run spec → ∀ id, result.Succeeds (.started id) ↔ Starts (c, b) id) ∧
      ∀ id, Current earlier id → ∀ args, Names id c args →
        ('\x00' ∉ id.toList → ∀ p, b = .ok p → result = .answered (args.map Octets.ofString) (perform id p c)) ∧
        ('\x00' ∈ id.toList → result = .notStarted (.spawn program.shown (SystemError.message .nulInArgument))) ∧
        (c = .remove → (result.Succeeds .done ↔ ∃ p, EndsWell (args.map Octets.ofString) b p)) ∧
        (c = .logs → ∀ bytes, result.Succeeds (.log bytes) ↔
          ∃ p, EndsWell (args.map Octets.ofString) b p ∧ bytes = p.stdout ++ p.stderr) := by
  have hresult := Session.getElem?_calls { program } earlier (c, b) later
  have hprogram := Session.after_program { program } earlier
  have hcontainer {id : String} (h : Current earlier id) := Session.after_container h { program }
  generalize Session.after { program } earlier = s at hresult hprogram hcontainer
  refine ⟨_, hresult, ?_, ?_, ?_⟩
  · rintro context tag rfl
    rw [Session.call_succeeds_iff rfl]
    simp only [perform_build_eq_done, EndsWell]
  · rintro spec rfl id
    rw [Session.call_succeeds_iff rfl]
    simp only [perform_run_eq_started, Starts, EndsWell, Call.run.injEq, exists_and_left, exists_eq_left', and_assoc]
  · intro id hid args hnames
    have hargs : Docker.args s.container c = some (args.map Octets.ofString) := by rw [hcontainer hid, hnames.args_eq]
    refine ⟨fun hnul p hp => ?_, fun hnul => ?_, ?_, ?_⟩
    · rw [Session.call_of_start_ok hargs (hnames.start_eq_ok.mpr ⟨hp, hnul⟩), hcontainer hid, Option.getD_some]
    · rw [Session.call_of_start_error hargs (hnames.start_nul hnul b), hprogram]
    · rintro rfl
      simp only [Session.call_succeeds_iff hargs, perform_remove_eq_done, EndsWell]
    · rintro rfl bytes
      simp only [Session.call_succeeds_iff hargs, perform_logs_eq_log, EndsWell, and_assoc]

theorem calls_name_container_after_failures :
    let spec : ContainerSpec := ⟨"i", [], []⟩
    let earlier : List Attempt := [(.run spec, .ok { stdout := [0x61, 0x0A] }),
      (.run spec, .ok { stdout := [0x62, 0x0A], ending := .exited 1 }), (.run spec, .ok { stdout := [0x20, 0x0A] })]
    let logs : Attempt := (.logs, .ok { stdout := [0xFF], stderr := [0x0A] })
    Current earlier "a" ∧ '\x00' ∉ "a".toList ∧
      (Session.calls { program := .ofText "docker" } (earlier ++ [logs]))[earlier.length]? =
        some (.answered (["logs", "a"].map Octets.ofString) (some (.ok (.log [0xFF, 0x0A])))) := by
  intro spec earlier logs
  have hcurrent : Current earlier "a" := by
    have htext : Octets.lenient [0x61, 0x0A] = ['a', '\n'] := by simp [Octets.lenient, Octets.first]
    have hstarts : Starts (.run spec, .ok { stdout := [0x61, 0x0A] }) "a" :=
      ⟨spec, { stdout := [0x61, 0x0A] }, rfl, ⟨Session.start_eq_ok.mpr ⟨rfl, by decide⟩, rfl⟩,
        ⟨'a', by simp [htext], by decide⟩, by rw [htext]; decide⟩
    refine ⟨[], _, _, rfl, hstarts, ?_⟩
    simp only [List.forall_mem_cons, List.not_mem_nil, false_imp_iff, implies_true, and_true]
    refine ⟨fun id h => ?_, fun id h => ?_⟩
    · cases (Session.ended_well_of_starts h).1
    · obtain ⟨-, c, hc, hblank⟩ := Session.ended_well_of_starts h
      have hall : ∀ c ∈ Octets.lenient [0x20, 0x0A], Text.isBlank c = true := by
        simp [Octets.lenient, Octets.first]
        decide
      exact Bool.false_ne_true (hblank.symm.trans (hall c hc))
  have hnul : '\x00' ∉ "a".toList := by decide
  obtain ⟨result, hresult, -, -, hnamed⟩ := calls_name_container (.ofText "docker") earlier .logs logs.2 []
  refine ⟨hcurrent, hnul, hresult.trans ?_⟩
  rw [(hnamed "a" hcurrent _ .logs).1 hnul _ rfl]
  rfl

theorem wait_names_no_container :
    let run : Attempt := (.run ⟨"i", [], []⟩, .ok { stdout := [0x61, 0x00, 0x62, 0x0A] })
    let wait : Attempt := (.wait none, .ok { stdout := [0x30, 0x0A] })
    Current [run] "a\x00b" ∧
      ∀ answer, (Session.calls { program := .ofText "docker" } [run, wait])[1]? ≠
        some (.answered (["wait", "a\x00b"].map Octets.ofString) answer) := by
  intro run wait
  have htext : Octets.lenient [0x61, 0x00, 0x62, 0x0A] = ['a', '\x00', 'b', '\n'] := by
    simp [Octets.lenient, Octets.first]
  have hstarts : Starts run "a\x00b" :=
    ⟨⟨"i", [], []⟩, { stdout := [0x61, 0x00, 0x62, 0x0A] }, rfl, ⟨Session.start_eq_ok.mpr ⟨rfl, by decide⟩, rfl⟩,
      ⟨'a', by simp [htext], by decide⟩, by rw [htext]; decide⟩
  have hcall : (Session.calls { program := .ofText "docker" } [run, wait])[1]? =
      some (.notStarted (.spawn "docker" (SystemError.message .nulInArgument))) := by
    have hcalls := Session.getElem?_calls { program := .ofText "docker" } [run] wait []
    have hafter : Session.after { program := .ofText "docker" } [run] =
        { program := .ofText "docker", container := some "a\x00b" } := Session.call_of_starts hstarts _
    rw [hafter, Session.call_of_start_error rfl ((Names.wait none).start_nul (by decide) wait.2)] at hcalls
    exact hcalls
  refine ⟨⟨[], run, [], rfl, hstarts, List.forall_mem_nil _⟩, fun answer h => ?_⟩
  cases hcall.symm.trans h

end Conformance.Docker
