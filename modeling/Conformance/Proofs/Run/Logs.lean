import Conformance.Proofs.Run.Lifecycle
import Conformance.Proofs.Run.LogNames

namespace Conformance

namespace Cycle

variable {t : Tree}

lemma persist_effect (t : Tree) (path : Path) (log : Bytes) :
    t.Grows (persist t path log).2 ∧
      (∀ l, (persist t path log).2.fileAt? l ≠ t.fileAt? l → (persist t path log).2.locate path = .ok l) ∧
      ((persist t path log).1 = .ok () → ∃ l, (persist t path log).2.locate path = .ok l ∧
        (persist t path log).2.fileAt? l = some { content := .octets log }) := by
  have hq := t.quiet_createDirs (path.parent?.getD ⟨[]⟩)
  rw [persist]
  split
  · next e u h =>
    rw [h] at hq
    exact ⟨hq.toGrows, fun l hl => (hl (hq.files l)).elim, nofun⟩
  · next u h =>
    rw [h] at hq
    split
    · exact ⟨hq.toGrows, fun l hl => (hl (hq.files l)).elim, nofun⟩
    · next v hw =>
      obtain ⟨k, hk, hg, hf⟩ := Tree.write_eq_ok hw
      refine ⟨hq.toGrows.trans hg, fun l hl => ?_, fun _ => ⟨k, hk, by simp [hf]⟩⟩
      by_cases hlk : l = k
      · exact hlk ▸ hk
      · exact (hl (by rw [hf, if_neg hlk, hq.files])).elim

structure Trial where
  endpoint : Endpoint
  ping : Except ClientError Reply
  engine : Engine
  request : Request
  config : Config

namespace Trial

variable (r : Trial) (runs : List Trial) (n : Name)

def after (t : Tree) : Tree :=
  (run t r.endpoint r.ping r.engine r.request r.config).tree

def log? : Option Bytes :=
  if started r.ping r.engine then r.engine.logs.toOption else none

def logName : Name :=
  Octets.ofString (Tags.logName r.request.tags)

def logPath : Path :=
  r.config.logDir.join ⟨r.logName⟩

lemma after_eq (t : Tree) : r.after t =
    match r.log? with
    | none => t
    | some log => (persist t r.logPath log).2 := by
  rw [after, run, runKeeping_eq, perform_conduct, log?, started, built, ← isOk_preflight]
  cases Instance.preflight r.ping with
  | error e => rfl
  | ok _ =>
    cases r.engine.build with
    | error e => rfl
    | ok _ =>
      cases r.engine.start with
      | error e => rfl
      | ok id =>
        simp only [perform_collect]
        cases r.engine.logs <;>
          simp [Except.isOk, Except.toBool, Except.toOption, Progress.note, logPath, logName, Tags.logPath, Path.ofText]

def afterAll (t : Tree) (runs : List Trial) : Tree :=
  runs.foldl (fun t r => r.after t) t

def Kept : Tree → List Trial → Prop
  | _, [] => True
  | t, r :: rest => (∀ log, r.log? = some log → (persist t r.logPath log).1 = .ok ()) ∧ Kept (r.after t) rest

def lastLog : Option Bytes :=
  (runs.filterMap fun r => if r.logName = n then r.log? else none).getLast?

lemma effect_after (t : Tree) : t.Grows (r.after t) ∧ ∀ l, (r.after t).fileAt? l ≠ t.fileAt? l →
    r.log? ≠ none ∧ (r.after t).locate r.logPath = .ok l := by
  rw [after_eq]
  cases r.log? with
  | none => exact ⟨.refl t, fun l hl => (hl rfl).elim⟩
  | some log =>
    obtain ⟨hg, hc, _⟩ := persist_effect t r.logPath log
    exact ⟨hg, fun l hl => ⟨nofun, hc l hl⟩⟩

lemma afterAll_concat (t : Tree) : afterAll t (runs ++ [r]) = r.after (afterAll t runs) := by
  simp [afterAll]

lemma kept_concat : Kept t (runs ++ [r]) ↔
    Kept t runs ∧ ∀ log, r.log? = some log → (persist (afterAll t runs) r.logPath log).1 = .ok () := by
  induction runs generalizing t with
  | nil => simp [Kept, afterAll]
  | cons q runs ih => simp only [List.cons_append, Kept, ih, and_assoc, afterAll, List.foldl_cons]

lemma lastLog_concat : lastLog (runs ++ [r]) n =
    (if r.logName = n then r.log? else none).or (lastLog runs n) := by
  have hr : ([r].filterMap fun r => if r.logName = n then r.log? else none).getLast? =
      if r.logName = n then r.log? else none := by
    rw [List.filterMap_cons, List.filterMap_nil]
    cases (if r.logName = n then r.log? else none) <;> rfl
  rw [lastLog, List.filterMap_append, List.getLast?_append, hr, lastLog]

variable {r runs n}

lemma lastLog_eq_none_iff : lastLog runs n = none ↔ ∀ r ∈ runs, r.logName = n → r.log? = none := by
  simp [lastLog]

lemma grows_afterAll (t : Tree) (runs : List Trial) : t.Grows (afterAll t runs) := by
  induction runs generalizing t with
  | nil => exact .refl t
  | cons r runs ih => exact (r.effect_after t).1.trans (ih _)

lemma exists_of_changed {l : Node.Location} (h : (afterAll t runs).fileAt? l ≠ t.fileAt? l) :
    ∃ r ∈ runs, r.log? ≠ none ∧ (afterAll t runs).locate r.logPath = .ok l := by
  induction runs using List.reverseRecOn with
  | nil => exact (h rfl).elim
  | append_singleton runs r ih =>
    rw [afterAll_concat] at h ⊢
    obtain ⟨hg, hc⟩ := r.effect_after (afterAll t runs)
    by_cases hl : (r.after (afterAll t runs)).fileAt? l = (afterAll t runs).fileAt? l
    · obtain ⟨q, hq, hlog, hp⟩ := ih (hl ▸ h)
      exact ⟨q, by simp [hq], hlog, hg.locate hp⟩
    · exact ⟨r, by simp, hc l hl⟩

variable {dir : Path}

lemma logName_eq_of_locate {l : Node.Location} (hdir : r.config.logDir = dir) (hn : Path.IsName n)
    (h : t.locate (dir.join ⟨n⟩) = .ok l) (hr : t.locate r.logPath = .ok l) : r.logName = n := by
  rw [logPath, hdir] at hr
  exact (Tree.locate_join_inj hn (Tags.isName_logName _) (Tags.isDots_logName _) h hr).symm

lemma holds_lastLog {log : Bytes} (hdir : ∀ r ∈ runs, r.config.logDir = dir) (hk : Kept t runs)
    (hn : Path.IsName n) (h : lastLog runs n = some log) :
    ∃ l, (afterAll t runs).locate (dir.join ⟨n⟩) = .ok l ∧
      (afterAll t runs).fileAt? l = some { content := .octets log } := by
  induction runs using List.reverseRecOn with
  | nil => simp [lastLog] at h
  | append_singleton runs r ih =>
    obtain ⟨hkept, hlast⟩ := (kept_concat _ _).mp hk
    have hd : r.config.logDir = dir := hdir r (by simp)
    rw [lastLog_concat] at h
    rw [afterAll_concat]
    -- The last run writes the log itself, or it leaves the file to the runs before it.
    cases ho : (if r.logName = n then r.log? else none) with
    | some own =>
      obtain ⟨hname, hlog⟩ := Option.ite_none_right_eq_some.mp ho
      rw [ho, Option.some_or, Option.some.injEq] at h
      subst h hname
      have hp : dir.join ⟨r.logName⟩ = r.logPath := by rw [logPath, hd]
      rw [after_eq, hlog, hp]
      exact (persist_effect _ _ _).2.2 (hlast _ hlog)
    | none =>
      rw [ho, Option.none_or] at h
      obtain ⟨l, hl, hf⟩ := ih (fun q hq => hdir q (by simp [hq])) hkept h
      obtain ⟨hg, hc⟩ := r.effect_after (afterAll t runs)
      refine ⟨l, hg.locate hl, ?_⟩
      by_contra hne
      obtain ⟨hlog, hr⟩ := hc l (fun he => hne (he.trans hf))
      rw [if_pos (logName_eq_of_locate hd hn (hg.locate hl) hr)] at ho
      exact hlog ho

/-- After any runs that share a log directory, the file of each name holds the log of the last run that got one under
this name, whatever came of waiting for it, and is as it was if there was none. A run without a log changes nothing at
all, and no run changes a file other than its log. The path of a name may lead nowhere before the runs, where the
directory is yet to be made. -/
theorem afterAll_logs (hdir : ∀ r ∈ runs, r.config.logDir = dir) (hk : Kept t runs) :
    (∀ n, Path.IsName n →
      match lastLog runs n with
      | some log => (afterAll t runs).read (dir.join ⟨n⟩) = .ok log
      | none => (∀ l, t.locate (dir.join ⟨n⟩) = .ok l → (afterAll t runs).locate (dir.join ⟨n⟩) = .ok l) ∧
        ∀ l, (afterAll t runs).locate (dir.join ⟨n⟩) = .ok l → (afterAll t runs).fileAt? l = t.fileAt? l) ∧
      (∀ (r : Trial) (t : Tree), (started r.ping r.engine = false ∨ ∃ e, r.engine.logs = .error e) → r.after t = t) ∧
      ∀ (r : Trial) (t : Tree) (l : Node.Location), (r.after t).fileAt? l ≠ t.fileAt? l →
        (r.after t).locate (r.config.logDir.join (.ofText (Tags.logName r.request.tags))) = .ok l := by
  refine ⟨fun n hn => ?_, fun r t hr => ?_, fun r t l hl => ((r.effect_after t).2 l hl).2⟩
  · cases hlast : lastLog runs n with
    | some log =>
      obtain ⟨l, hl, hf⟩ := holds_lastLog hdir hk hn hlast
      exact Tree.read_of_fileAt? hl hf
    | none =>
      refine ⟨fun l => (grows_afterAll t runs).locate, fun l hl => ?_⟩
      by_contra hc
      obtain ⟨r, hr, hlog, hp⟩ := exists_of_changed hc
      exact hlog (lastLog_eq_none_iff.mp hlast r hr (logName_eq_of_locate (hdir r hr) hn hl hp))
  · have hlog : r.log? = none := by
      rw [log?]
      rcases hr with hs | ⟨e, he⟩
      · simp [hs]
      · simp [he, Except.toOption]
    rw [after_eq, hlog]

theorem afterAll_logs_overlapping :
    let trial (tags : String) (engine : Engine) : Trial :=
      ⟨⟨"localhost", 6379⟩, .ok (.status "PONG"), engine, ⟨tags, []⟩, { logDir := .ofText "logs" }⟩
    let runs := [trial "a b" { start := .ok "1", logs := .ok [49] },
      trial "a/b" { start := .ok "2", wait := .error (.timeout "2" ⟨1, 0⟩), logs := .ok [50] },
      trial "a_b" { start := .ok "3", logs := .error (.engine "gone") }]
    (∀ r ∈ runs, r.config.logDir = .ofText "logs") ∧ Kept {} runs ∧ Path.IsName (Octets.ofString "a_b.docker.log") ∧
      (afterAll {} runs).read ((Path.ofText "logs").join (.ofText "a_b.docker.log")) = .ok [50] := by
  intro trial runs
  have hdir : ∀ r ∈ runs, r.config.logDir = .ofText "logs" := by simp [runs, trial]
  have hk : Kept {} runs := by
    simp only [runs, Kept, and_true]
    refine ⟨fun log h => ?_, fun log h => ?_, fun log h => ?_⟩ <;> cases h
    · decide +kernel
    · decide +kernel
  have hn : Path.IsName (Octets.ofString "a_b.docker.log") := ⟨by decide, by decide⟩
  have hl : lastLog runs (Octets.ofString "a_b.docker.log") = some [50] := by decide +kernel
  obtain ⟨h, -⟩ := afterAll_logs hdir hk
  have hr := h (Octets.ofString "a_b.docker.log") hn
  simp only [hl] at hr
  exact ⟨hdir, hk, hn, hr⟩

end Trial

end Cycle

end Conformance
