import Conformance.Proofs.Text.Runs
import Conformance.Run.Command

namespace Conformance

namespace CommandLine

structure Reader where
  complete : List (List Char) := []
  begun : Option (List Char) := none
  quoted : Bool := false

namespace Reader

def step (r : Reader) (c : Char) : Reader :=
  if c = '"' then { r with begun := some (r.begun.getD []), quoted := !r.quoted }
  else if c = ' ' ∧ r.quoted = false then { complete := r.complete ++ r.begun.toList }
  else { r with begun := some (r.begun.getD [] ++ [c]) }

def run (r : Reader) (s : List Char) : Reader :=
  s.foldl step r

end Reader

def read? (line : String) : Option (List String) :=
  let r := Reader.run {} line.toList
  if r.quoted then none else some ((r.complete ++ r.begun.toList).map .ofList)

section Reading

open Reader (run)

variable {args : List (List Char)} {a s : List Char} {quoted afterTags : Bool} {arg : String} {command : List String}

lemma run_append (r : Reader) (s t : List Char) : run r (s ++ t) = run (run r s) t :=
  List.foldl_append

lemma run_cons (r : Reader) (c : Char) (s : List Char) : run r (c :: s) = run (r.step c) s :=
  rfl

lemma step_letter {begun : Option (List Char)} {c : Char} (hquote : c ≠ '"') (hblank : quoted = false → c ≠ ' ') :
    Reader.step ⟨args, begun, quoted⟩ c = ⟨args, some (begun.getD [] ++ [c]), quoted⟩ := by
  rw [Reader.step, if_neg hquote, if_neg fun ⟨hc, hq⟩ => hblank hq hc]

lemma run_letters (h : ∀ c ∈ s, c ≠ '"' ∧ (quoted = false → c ≠ ' ')) :
    run ⟨args, some a, quoted⟩ s = ⟨args, some (a ++ s), quoted⟩ := by
  induction s generalizing a with
  | nil => rw [List.append_nil]; rfl
  | cons c s ih =>
    obtain ⟨⟨hquote, hblank⟩, hs⟩ := List.forall_mem_cons.mp h
    rw [run_cons, step_letter hquote hblank, Option.getD_some, ih hs, List.append_assoc, List.singleton_append]

lemma run_letters_of_ne_nil (hs : s ≠ []) (h : ∀ c ∈ s, c ≠ '"' ∧ (quoted = false → c ≠ ' ')) :
    run ⟨args, none, quoted⟩ s = ⟨args, some s, quoted⟩ := by
  obtain ⟨c, s, rfl⟩ := List.exists_cons_of_ne_nil hs
  obtain ⟨⟨hquote, hblank⟩, hrest⟩ := List.forall_mem_cons.mp h
  rw [run_cons, step_letter hquote hblank]
  exact run_letters hrest

lemma needsQuotes_eq_false_iff :
    needsQuotes afterTags arg = false ↔ afterTags = false ∧ arg ≠ "" ∧ ∀ c ∈ arg.toList, Text.isBlank c = false := by
  simp [needsQuotes, and_assoc]

def part (afterTags : Bool) (arg : String) : String :=
  if needsQuotes afterTags arg then "\"" ++ arg ++ "\"" else arg

lemma renderArgs_cons (afterTags : Bool) (arg : String) (rest : List String) :
    renderArgs afterTags (arg :: rest) = part afterTags arg :: renderArgs (arg == "--tags") rest :=
  rfl

lemma run_part (h : '"' ∉ arg.toList) :
    run ⟨args, none, false⟩ (part afterTags arg).toList = ⟨args, some arg.toList, false⟩ := by
  have hquote {c : Char} (hc : c ∈ arg.toList) : c ≠ '"' := by
    rintro rfl
    exact h hc
  rw [part]
  split
  · have htext : ("\"" ++ arg ++ "\"").toList = '"' :: (arg.toList ++ ['"']) := by simp
    have hletters : run ⟨args, some [], true⟩ arg.toList = ⟨args, some arg.toList, true⟩ :=
      run_letters fun c hc => ⟨hquote hc, nofun⟩
    rw [htext, run_cons, run_append]
    exact congrArg (run · ['"']) hletters
  · next hbare =>
    obtain ⟨-, hne, hsolid⟩ := needsQuotes_eq_false_iff.mp (Bool.not_eq_true _ ▸ hbare)
    have hblank {c : Char} (hc : c ∈ arg.toList) : c ≠ ' ' := by
      rintro rfl
      cases hsolid ' ' hc
    exact run_letters_of_ne_nil (by simpa using hne) fun c hc => ⟨hquote hc, fun _ => hblank hc⟩

lemma run_parts (args : List (List Char)) (a : List Char) (afterTags : Bool)
    (h : ∀ arg ∈ command, '"' ∉ arg.toList) : ∃ complete last,
    run ⟨args, some a, false⟩ ((renderArgs afterTags command).flatMap (' ' :: String.toList ·)) =
        ⟨complete, some last, false⟩ ∧
      complete ++ [last] = args ++ a :: command.map String.toList := by
  induction command generalizing args a afterTags with
  | nil => exact ⟨args, a, rfl, rfl⟩
  | cons arg command ih =>
    obtain ⟨harg, hcommand⟩ := List.forall_mem_cons.mp h
    obtain ⟨complete, last, hrun, hall⟩ := ih (args ++ [a]) arg.toList (arg == "--tags") hcommand
    refine ⟨complete, last, ?_, ?_⟩
    · have hblank : Reader.step ⟨args, some a, false⟩ ' ' = ⟨args ++ [a], none, false⟩ := rfl
      rw [renderArgs_cons, List.flatMap_cons, List.cons_append, run_cons, hblank, run_append, run_part harg, hrun]
    · rw [hall, List.append_assoc, List.singleton_append, List.map_cons]

lemma toList_renderCommand_cons (arg : String) (rest : List String) : (renderCommand (arg :: rest)).toList =
    (part false arg).toList ++ (renderArgs (arg == "--tags") rest).flatMap (' ' :: String.toList ·) := by
  have hblank : " ".toList = [' '] := rfl
  rw [renderCommand, renderArgs_cons, String.toList_intercalate, List.map_cons, hblank, intercalate_cons,
    List.flatMap_map]

lemma read?_render (h : ∀ arg ∈ command, '"' ∉ arg.toList) : read? (renderCommand command) = some command := by
  cases command with
  | nil => rfl
  | cons arg rest =>
    obtain ⟨harg, hrest⟩ := List.forall_mem_cons.mp h
    obtain ⟨complete, last, hrun, hall⟩ := run_parts [] arg.toList (arg == "--tags") hrest
    have hline : run {} (renderCommand (arg :: rest)).toList = ⟨complete, some last, false⟩ := by
      rw [toList_renderCommand_cons, run_append, ← hrun]
      exact congrArg (run · _) (run_part harg)
    have hread : read? (renderCommand (arg :: rest)) = some ((complete ++ [last]).map String.ofList) := by
      rw [read?, hline]
      rfl
    rw [hread, hall]
    simp

lemma renderArgs_append (afterTags : Bool) (front rest : List String) :
    renderArgs afterTags (front ++ "--tags" :: rest) =
      renderArgs afterTags (front ++ ["--tags"]) ++ renderArgs true rest := by
  induction front generalizing afterTags with
  | nil => rfl
  | cons arg front ih => rw [List.cons_append, renderArgs_cons, ih, List.cons_append, renderArgs_cons, List.cons_append]

lemma renderArgs_ne_nil (afterTags : Bool) {command : List String} (h : command ≠ []) :
    renderArgs afterTags command ≠ [] := by
  cases command with
  | nil => exact (h rfl).elim
  | cons arg rest => exact List.cons_ne_nil _ _

lemma renderCommand_tags (front : List String) (arg : String) (rest : List String) : ∃ more,
    renderCommand (front ++ "--tags" :: arg :: rest) =
        renderCommand (front ++ ["--tags"]) ++ " " ++ ("\"" ++ arg ++ "\"" ++ more) ∧
      (more = "" ∨ ∃ further, more = " " ++ further) := by
  have hfront : renderArgs false (front ++ ["--tags"]) ≠ [] := renderArgs_ne_nil _ (by simp)
  have hquoted : part true arg = "\"" ++ arg ++ "\"" := rfl
  rw [renderCommand, renderArgs_append, renderArgs_cons, hquoted,
    String.intercalate_append_of_ne_nil hfront (List.cons_ne_nil _ _), ← renderCommand]
  cases renderArgs (arg == "--tags") rest with
  | nil => exact ⟨"", by rw [String.intercalate_singleton, String.append_empty], .inl rfl⟩
  | cons next parts =>
    refine ⟨" " ++ " ".intercalate (next :: parts), ?_, .inr ⟨_, rfl⟩⟩
    simp only [String.intercalate_cons_cons, String.append_assoc]

/-- A command without quotes in its arguments is read back from the line that shows it, so no two of them are shown
alike. Whatever the arguments are, the one behind `--tags` stands in quotes. -/
theorem read?_renderCommand (command : List String) :
    ((∀ arg ∈ command, '"' ∉ arg.toList) → read? (renderCommand command) = some command ∧
      ∀ other : List String, (∀ arg ∈ other, '"' ∉ arg.toList) → renderCommand other = renderCommand command →
        other = command) ∧
      ∀ front arg rest, command = front ++ "--tags" :: arg :: rest → ∃ more,
        renderCommand command = renderCommand (front ++ ["--tags"]) ++ " " ++ ("\"" ++ arg ++ "\"" ++ more) ∧
          (more = "" ∨ ∃ further, more = " " ++ further) := by
  refine ⟨fun h => ⟨read?_render h, fun other ho he => ?_⟩, ?_⟩
  · have hread := read?_render ho
    rw [he, read?_render h] at hread
    exact (Option.some.inj hread).symm
  · rintro front arg rest rfl
    exact renderCommand_tags front arg rest

theorem read?_renderCommand_tags_twice :
    let command := ["./runtest", "", "\u2003", "--tags", "--tags", "-slow"]
    (∀ arg ∈ command, '"' ∉ arg.toList) ∧
      renderCommand command = "./runtest \"\" \"\u2003\" --tags \"--tags\" \"-slow\"" ∧
      read? "./runtest \"\" \"\u2003\" --tags \"--tags\" \"-slow\"" = some command := by
  -- Behind the switch comes the switch again, and what stands before is empty or a blank that divides nothing.
  intro command
  have hcommand : ∀ arg ∈ command, '"' ∉ arg.toList := by decide
  have htext : renderCommand command = "./runtest \"\" \"\u2003\" --tags \"--tags\" \"-slow\"" := by decide +kernel
  have hread := ((read?_renderCommand command).1 hcommand).1
  rw [htext] at hread
  exact ⟨hcommand, htext, hread⟩

end Reading

end CommandLine

namespace ContainerSpec

def readFrom? (hosts : List String) : List String → Option ContainerSpec
  | [] => none
  | arg :: rest =>
    if arg = "--add-host" then
      match rest with
      | [] => none
      | host :: rest => readFrom? (hosts ++ [host]) rest
    else some ⟨arg, rest, hosts⟩

def readArgs? : List String → Option ContainerSpec
  | "run" :: "-d" :: rest => readFrom? [] rest
  | _ => none

variable {spec : ContainerSpec} {args before : List String}

lemma readFrom?_switch (before : List String) (host : String) (rest : List String) :
    readFrom? before ("--add-host" :: host :: rest) = readFrom? (before ++ [host]) rest := by
  rw [readFrom?.eq_def]
  exact if_pos rfl

lemma readFrom?_hosts (before hosts : List String) {image : String} (h : image ≠ "--add-host") (command : List String) :
    readFrom? before (hosts.flatMap (fun host => ["--add-host", host]) ++ image :: command) =
      some ⟨image, command, before ++ hosts⟩ := by
  induction hosts generalizing before with
  | nil =>
    rw [List.flatMap_nil, List.nil_append, List.append_nil, readFrom?.eq_def]
    exact if_neg h
  | cons host hosts ih =>
    rw [List.flatMap_cons, List.append_assoc, List.cons_append, List.singleton_append, readFrom?_switch, ih,
      List.append_assoc, List.singleton_append]

lemma exists_of_readFrom? (h : readFrom? before args = some spec) : ∃ hosts, spec.extraHosts = before ++ hosts ∧
    args = hosts.flatMap (fun host => ["--add-host", host]) ++ spec.image :: spec.command := by
  fun_induction readFrom? before args with
  | case1 => cases h
  | case2 => cases h
  | case3 before host rest ih =>
    obtain ⟨hosts, hspec, rfl⟩ := ih h
    exact ⟨host :: hosts, by rw [hspec, List.append_assoc, List.singleton_append], rfl⟩
  | case4 before image rest =>
    cases h
    exact ⟨[], (List.append_nil before).symm, rfl⟩

lemma runArgs_eq (spec : ContainerSpec) : spec.runArgs = "run" :: "-d" ::
    (spec.extraHosts.flatMap (fun host => ["--add-host", host]) ++ spec.image :: spec.command) := by
  simp [runArgs]

lemma readArgs?_eq_some_iff (h : spec.image ≠ "--add-host") : readArgs? args = some spec ↔ args = spec.runArgs := by
  rw [runArgs_eq]
  constructor
  · intro hread
    rw [readArgs?.eq_def] at hread
    split at hread
    · next rest =>
      obtain ⟨hosts, hhosts, rfl⟩ := exists_of_readFrom? hread
      rw [hhosts, List.nil_append]
    · cases hread
  · rintro rfl
    exact readFrom?_hosts [] spec.extraHosts h spec.command

/-- What a container is called with is read as that container and nothing else is, whatever its hosts and its
command are, if only its image is not the switch for a host. So no two containers of that kind are called alike. -/
theorem readArgs?_runArgs (h : spec.image ≠ "--add-host") :
    (∀ args, readArgs? args = some spec ↔ args = spec.runArgs) ∧
      ∀ other : ContainerSpec, other.image ≠ "--add-host" → other.runArgs = spec.runArgs → other = spec := by
  refine ⟨fun args => readArgs?_eq_some_iff h, fun other ho he => ?_⟩
  have hread := (readArgs?_eq_some_iff ho).mpr rfl
  rw [he, (readArgs?_eq_some_iff h).mpr rfl] at hread
  exact (Option.some.inj hread).symm

theorem readArgs?_runArgs_switches :
    let spec : ContainerSpec := ⟨"i", ["--add-host", "x"], ["--add-host", "h:1"]⟩
    spec.image ≠ "--add-host" ∧
      readArgs? ["run", "-d", "--add-host", "--add-host", "--add-host", "h:1", "i", "--add-host", "x"] = some spec := by
  intro spec
  have himage : spec.image ≠ "--add-host" := by decide
  exact ⟨himage, ((readArgs?_runArgs himage).1 _).mpr rfl⟩

-- An image of that name is taken for the switch.
example : (⟨"--add-host", ["a", "b"], []⟩ : ContainerSpec).runArgs = (⟨"b", [], ["a"]⟩ : ContainerSpec).runArgs := rfl

end ContainerSpec

end Conformance
