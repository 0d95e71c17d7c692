import Conformance.Files.Tree
import Mathlib.Data.List.Induction
import Mathlib.Tactic.Lemma

/-! How a tree changes. A tree that only grows leads every path where it led before, making directories changes no
file, and writing changes the one file at which its path ends. -/

namespace Conformance

lemma bind_eq_ok {ε α β : Type} {r : Except ε α} {f : α → Except ε β} {b : β} :
    r >>= f = .ok b ↔ ∃ a, r = .ok a ∧ f a = .ok b := by
  cases r <;> simp [bind, Except.bind]

namespace Node

def file? : Node → Option File
  | file f => some f
  | dir _ => none

def found? (l : Location) (root : Node) : Option (Option File) :=
  (at? l root).map file?

lemma found?_nil (root : Node) : found? [] root = some root.file? :=
  rfl

lemma found?_file {f : File} {l : Location} (h : l ≠ []) : found? l (file f) = none := by
  cases l with
  | nil => exact (h rfl).elim
  | cons name l => rfl

lemma found?_empty {l : Location} (h : l ≠ []) : found? l (dir []) = none := by
  cases l with
  | nil => exact (h rfl).elim
  | cons name l => rfl

lemma found?_cons_dir (name : Name) (l : Location) (entries : List (Name × Node)) :
    found? (name :: l) (dir entries) = (entries.lookup name).bind (found? l) := by
  rw [found?, at?]
  cases entries.lookup name <;> rfl

lemma lookup_cons_of_ne {n m : Name} (h : m ≠ n) (x : Node) (entries : List (Name × Node)) :
    ((n, x) :: entries).lookup m = entries.lookup m := by
  simp [List.lookup_cons, beq_eq_false_iff_ne.mpr h]

lemma lookup_setEntry (entries : List (Name × Node)) (name m : Name) (node : Node) :
    (setEntry entries name node).lookup m = if m = name then some node else entries.lookup m := by
  induction entries with
  | nil =>
    by_cases h : m = name
    · simp [setEntry, h]
    · rw [setEntry, lookup_cons_of_ne h, if_neg h]
  | cons e entries ih =>
    obtain ⟨n, x⟩ := e
    rw [setEntry]
    by_cases hn : n = name
    · subst hn
      by_cases h : m = n
      · simp [h]
      · rw [if_pos rfl, lookup_cons_of_ne h, lookup_cons_of_ne h, if_neg h]
    · rw [if_neg hn]
      by_cases h : m = n
      · subst h
        simp [hn]
      · rw [lookup_cons_of_ne h, lookup_cons_of_ne h, ih]

lemma exists_of_at?_cons {name : Name} {l : Location} {root node : Node} (h : at? (name :: l) root = some node) :
    ∃ entries child, root = dir entries ∧ entries.lookup name = some child ∧ at? l child = some node := by
  cases root with
  | file f => cases h
  | dir entries =>
    obtain ⟨child, hc, hl⟩ := Option.bind_eq_some_iff.mp h
    exact ⟨entries, child, rfl, hc, hl⟩

lemma found?_put_append {l : Location} {name : Name} {root new : Node} {entries : List (Name × Node)}
    (h : at? l root = some (dir entries)) (k : Location) :
    found? (l ++ name :: k) (put (l ++ [name]) new root) = found? k new := by
  induction l generalizing root with
  | nil =>
    cases h
    rw [List.nil_append, List.nil_append, put, put, found?_cons_dir, lookup_setEntry, if_pos rfl, Option.bind_some]
  | cons a l ih =>
    obtain ⟨es, child, rfl, hc, hl⟩ := exists_of_at?_cons h
    rw [List.cons_append, List.cons_append, put, found?_cons_dir, lookup_setEntry, if_pos rfl, hc, Option.bind_some,
      Option.getD_some, ih hl]

lemma found?_put_elsewhere {l m : Location} {name : Name} {root new : Node} {entries : List (Name × Node)}
    (h : at? l root = some (dir entries)) (hm : ¬ l ++ [name] <+: m) :
    found? m (put (l ++ [name]) new root) = found? m root := by
  induction l generalizing root m with
  | nil =>
    cases h
    cases m with
    | nil => rfl
    | cons k m =>
      have hk : k ≠ name := by
        rintro rfl
        simp at hm
      rw [List.nil_append, put, put, found?_cons_dir, found?_cons_dir, lookup_setEntry, if_neg hk]
  | cons a l ih =>
    obtain ⟨es, child, rfl, hc, hl⟩ := exists_of_at?_cons h
    cases m with
    | nil => rfl
    | cons k m =>
      rw [List.cons_append, put, found?_cons_dir, found?_cons_dir, lookup_setEntry]
      by_cases hk : k = a
      · subst hk
        rw [if_pos rfl, hc, Option.bind_some, Option.bind_some, Option.getD_some]
        exact ih hl fun hp => hm (by simpa using hp)
      · rw [if_neg hk]

lemma found?_append_of_not_dir {l k : Location} {root : Node} (h : found? l root ≠ some none) (hk : k ≠ []) :
    found? (l ++ k) root = none := by
  rw [found?, at?_append]
  cases hl : at? l root with
  | none => rfl
  | some node =>
    cases node with
    | file f => exact found?_file hk
    | dir entries => simp [found?, hl, file?] at h

lemma found?_put {l : Location} {name : Name} {root new : Node} {entries : List (Name × Node)}
    (h : at? l root = some (dir entries)) (hn : found? (l ++ [name]) root ≠ some none)
    (hnew : ∀ k ≠ [], found? k new = none) (m : Location) :
    found? m (put (l ++ [name]) new root) = if m = l ++ [name] then some new.file? else found? m root := by
  by_cases hp : l ++ [name] <+: m
  · obtain ⟨k, rfl⟩ := hp
    have hl : found? (l ++ [name] ++ k) (put (l ++ [name]) new root) = found? k new := by
      rw [List.append_assoc]
      exact found?_put_append h k
    cases k with
    | nil => rw [hl, if_pos (List.append_nil _), found?_nil]
    | cons a k => rw [hl, if_neg (by simp), hnew _ (List.cons_ne_nil a k),
        found?_append_of_not_dir hn (List.cons_ne_nil a k)]
  · rw [found?_put_elsewhere h hp, if_neg]
    rintro rfl
    exact hp List.prefix_rfl

end Node

namespace Tree

variable {t t' t'' : Tree}

def fileAt? (t : Tree) (l : Node.Location) : Option File :=
  match t.root.at? l with
  | some (.file f) => some f
  | _ => none

lemma fileAt?_eq_join (t : Tree) (l : Node.Location) : t.fileAt? l = (t.root.found? l).join := by
  rw [fileAt?, Node.found?]
  cases t.root.at? l with
  | none => rfl
  | some node => cases node <;> rfl

lemma found?_eq_dir_iff {l : Node.Location} :
    t.root.found? l = some none ↔ ∃ entries, t.root.at? l = some (.dir entries) := by
  rw [Node.found?]
  cases t.root.at? l with
  | none => simp
  | some node => cases node <;> simp [Node.file?]

lemma entriesAt_eq_ok {l : Node.Location} {entries : List (Name × Node)} :
    t.entriesAt l = .ok entries ↔ t.root.at? l = some (.dir entries) := by
  rw [entriesAt]
  cases t.root.at? l with
  | none => simp
  | some node => cases node <;> simp

lemma found?_concat {l : Node.Location} {entries : List (Name × Node)} (h : t.root.at? l = some (.dir entries))
    (s : Name) : t.root.found? (l ++ [s]) = (entries.lookup s).map Node.file? := by
  rw [Node.found?, Node.at?_append, h, Option.bind_some, Node.at?]
  cases entries.lookup s <;> rfl

def LeadsTo (t : Tree) (l : Node.Location) (s : Name) (m : Node.Location) : Prop :=
  t.root.found? l = some none ∧
    if s = Path.here then m = l
    else if s = Path.up then m = l.dropLast
    else s.length ≤ Node.maxName ∧ t.root.found? (l ++ [s]) ≠ none ∧ m = l ++ [s]

lemma follow_concat_eq_ok {segments : List Name} {s : Name} {m : Node.Location} :
    t.follow (segments ++ [s]) = .ok m ↔ ∃ l, t.follow segments = .ok l ∧ t.LeadsTo l s m := by
  rw [follow_concat]
  cases t.follow segments with
  | error e => simp [Except.bind]
  | ok l =>
    simp only [Except.bind, Except.ok.injEq, exists_eq_left', LeadsTo, found?_eq_dir_iff]
    cases he : t.entriesAt l with
    | error e =>
      have hn (entries) : t.root.at? l ≠ some (.dir entries) := by
        rw [ne_eq, ← entriesAt_eq_ok, he]
        nofun
      simp [hn]
    | ok entries =>
      have hl := entriesAt_eq_ok.mp he
      have hc := found?_concat hl s
      simp only [hl, Option.some.injEq, Node.dir.injEq, exists_eq', true_and, hc]
      split
      · simp [eq_comm]
      · split
        · simp [eq_comm]
        · split
          · next hlong => simp [Nat.not_le.mpr hlong]
          · next hlong => cases entries.lookup s <;> simp [Nat.not_lt.mp hlong, eq_comm]

structure Grows (t t' : Tree) : Prop where
  workdir : t'.workdir = t.workdir
  dirs {l : Node.Location} : t.root.found? l = some none → t'.root.found? l = some none
  present {l : Node.Location} : t.root.found? l ≠ none → t'.root.found? l ≠ none

lemma Grows.refl (t : Tree) : Grows t t :=
  ⟨rfl, id, id⟩

lemma Grows.trans (h : Grows t t') (h' : Grows t' t'') : Grows t t'' :=
  ⟨h'.workdir.trans h.workdir, h'.dirs ∘ h.dirs, h'.present ∘ h.present⟩

lemma Grows.leadsTo (h : Grows t t') {l m : Node.Location} {s : Name} (hl : t.LeadsTo l s m) : t'.LeadsTo l s m := by
  refine ⟨h.dirs hl.1, ?_⟩
  have hm := hl.2
  split at hm
  · next hs => rwa [if_pos hs]
  · next hs =>
    rw [if_neg hs]
    split at hm
    · next hd => rwa [if_pos hd]
    · next hd =>
      rw [if_neg hd]
      exact ⟨hm.1, h.present hm.2.1, hm.2.2⟩

lemma Grows.follow (h : Grows t t') {segments : List Name} {l : Node.Location} (hf : t.follow segments = .ok l) :
    t'.follow segments = .ok l := by
  induction segments using List.reverseRecOn generalizing l with
  | nil => exact hf
  | append_singleton segments s ih =>
    obtain ⟨k, hk, hl⟩ := follow_concat_eq_ok.mp hf
    exact follow_concat_eq_ok.mpr ⟨k, ih hk, h.leadsTo hl⟩

lemma locate_eq_ok {p : Path} {l : Node.Location} : t.locate p = .ok l ↔
    check p = .ok () ∧ t.follow (t.start p ++ p.segments ++ if p.endsInSlash then [Path.here] else []) = .ok l := by
  rw [locate]
  cases check p <;> simp [bind, Except.bind]

lemma node_eq_ok {p : Path} {node : Node} :
    t.node p = .ok node ↔ ∃ l, t.locate p = .ok l ∧ t.root.at? l = some node := by
  rw [Tree.node]
  cases t.locate p with
  | error e => simp [bind, Except.bind]
  | ok l =>
    simp only [bind, Except.bind, Except.ok.injEq, exists_eq_left']
    cases t.root.at? l <;> simp

lemma fileAt?_eq_some_iff {l : Node.Location} {f : File} :
    t.fileAt? l = some f ↔ t.root.at? l = some (.file f) := by
  rw [fileAt?]
  cases t.root.at? l with
  | none => simp
  | some node => cases node <;> simp

lemma content_eq_ok {p : Path} {c : Content} :
    t.content p = .ok c ↔ ∃ l f, t.locate p = .ok l ∧ t.fileAt? l = some f ∧ f.content = c := by
  rw [content, bind_eq_ok]
  constructor
  · rintro ⟨node, hn, hc⟩
    obtain ⟨l, hl, ha⟩ := node_eq_ok.mp hn
    cases node with
    | dir entries => cases hc
    | file f =>
      cases hc
      exact ⟨l, f, hl, fileAt?_eq_some_iff.mpr ha, rfl⟩
  · rintro ⟨l, f, hl, hf, rfl⟩
    exact ⟨.file f, node_eq_ok.mpr ⟨l, hl, fileAt?_eq_some_iff.mp hf⟩, rfl⟩

lemma read_of_fileAt? {p : Path} {l : Node.Location} {f : File} (hl : t.locate p = .ok l) (hf : t.fileAt? l = some f) :
    t.read p = .ok f.content.toBytes :=
  bind_eq_ok.mpr ⟨f.content, content_eq_ok.mpr ⟨l, f, hl, hf, rfl⟩, rfl⟩

lemma Grows.start (h : Grows t t') (p : Path) : t'.start p = t.start p := by
  rw [Tree.start, Tree.start, h.workdir]

lemma Grows.locate (h : Grows t t') {p : Path} {l : Node.Location} (hl : t.locate p = .ok l) : t'.locate p = .ok l := by
  rw [locate_eq_ok] at hl ⊢
  rw [h.start]
  exact ⟨hl.1, h.follow hl.2⟩

lemma Grows.content (h : Grows t t') {p : Path} {c : Content} (hc : t.content p = .ok c)
    (hsame : ∀ l, t.locate p = .ok l → t'.fileAt? l = t.fileAt? l) : t'.content p = .ok c := by
  obtain ⟨l, f, hl, hf, rfl⟩ := content_eq_ok.mp hc
  exact content_eq_ok.mpr ⟨l, f, h.locate hl, (hsame l hl).trans hf, rfl⟩

structure Quiet (t t' : Tree) : Prop extends Grows t t' where
  files (l : Node.Location) : t'.fileAt? l = t.fileAt? l

lemma Quiet.refl (t : Tree) : Quiet t t :=
  ⟨.refl t, fun _ => rfl⟩

lemma Quiet.trans (h : Quiet t t') (h' : Quiet t' t'') : Quiet t t'' :=
  ⟨h.toGrows.trans h'.toGrows, fun l => (h'.files l).trans (h.files l)⟩

section Put

variable {l : Node.Location} {name : Name} {new : Node} {entries : List (Name × Node)}
variable (h : t.root.at? l = some (.dir entries)) (hn : t.root.found? (l ++ [name]) ≠ some none)
variable (hnew : ∀ k ≠ [], new.found? k = none)
include h hn hnew

lemma grows_put : Grows t (t.put (l ++ [name]) new) := by
  have he := Node.found?_put h hn hnew
  refine ⟨rfl, fun {m} hm => ?_, fun {m} hm => ?_⟩
  · rw [put, he, if_neg]
    · exact hm
    · rintro rfl
      exact hn hm
  · rw [put, he]
    split
    · nofun
    · exact hm

lemma fileAt?_put (m : Node.Location) :
    (t.put (l ++ [name]) new).fileAt? m = if m = l ++ [name] then new.file? else t.fileAt? m := by
  rw [fileAt?_eq_join, fileAt?_eq_join, put, Node.found?_put h hn hnew]
  split <;> rfl

end Put

lemma makeDir_eq_ok {base : Node.Location} {segments : List Name} {name : Name}
    (h : t.makeDir base segments name = .ok t') : ∃ l entries, t.root.at? l = some (.dir entries) ∧
      entries.lookup name = none ∧ t' = t.put (l ++ [name]) (.dir []) := by
  rw [makeDir] at h
  obtain ⟨l, hl, h⟩ := bind_eq_ok.mp h
  obtain ⟨entries, he, h⟩ := bind_eq_ok.mp h
  split at h
  · cases h
  · split at h
    · cases h
    · split at h
      · cases h
      · next hn =>
        cases h
        exact ⟨l, entries, entriesAt_eq_ok.mp he, Option.not_isSome_iff_eq_none.mp hn, rfl⟩

lemma quiet_of_makeDir {base : Node.Location} {segments : List Name} {name : Name}
    (h : t.makeDir base segments name = .ok t') : Quiet t t' := by
  obtain ⟨l, entries, hl, hn, rfl⟩ := makeDir_eq_ok h
  have hc : t.root.found? (l ++ [name]) = none := by rw [found?_concat hl, hn, Option.map_none]
  refine ⟨grows_put hl (by simp [hc]) fun k => Node.found?_empty, fun m => ?_⟩
  rw [fileAt?_put hl (by simp [hc]) fun k => Node.found?_empty]
  split
  · next hm => rw [hm, fileAt?_eq_join, hc]; rfl
  · rfl

lemma quiet_ensureDir (t : Tree) (base : Node.Location) (segments : List Name) (name : Name) :
    Quiet t (t.ensureDir base segments name).2 := by
  rw [ensureDir]
  split
  · next h => exact quiet_of_makeDir h
  · exact .refl t

lemma quiet_ensureDirs (t : Tree) (base : Node.Location) (around : List (List Name × Name)) :
    Quiet t (t.ensureDirs base around).2 := by
  induction around with
  | nil => exact .refl t
  | cons d around ih =>
    obtain ⟨segments, name⟩ := d
    rw [ensureDirs]
    split
    · split
      · next u h => exact (h ▸ ih).trans (quiet_ensureDir _ _ _ _)
      · exact ih
    · exact quiet_ensureDir _ _ _ _

lemma quiet_createDirs (t : Tree) (p : Path) : Quiet t (t.createDirs p).2 := by
  rw [createDirs]
  split
  · exact .refl t
  · split
    · exact .refl t
    · exact quiet_ensureDirs _ _ _

lemma target_eq_ok {p : Path} {l : Node.Location} (h : t.target p = .ok l) : ∃ front name k entries,
    check p = .ok () ∧ p.segments = front ++ [name] ∧ p.endsInSlash = false ∧
      t.follow (t.start p ++ front) = .ok k ∧ t.root.at? k = some (.dir entries) ∧
      isDots name = false ∧ name.length ≤ Node.maxName ∧ (∀ es, entries.lookup name ≠ some (.dir es)) ∧
      l = k ++ [name] := by
  rw [target] at h
  obtain ⟨_, hp, h⟩ := bind_eq_ok.mp h
  split at h
  · cases h
  · next name hname =>
    obtain ⟨k, hk, h⟩ := bind_eq_ok.mp h
    obtain ⟨entries, he, h⟩ := bind_eq_ok.mp h
    split at h
    · cases h
    · next hdots =>
      split at h
      · cases h
      · next hlong =>
        split at h
        · cases h
        · next hn =>
          cases h
          obtain ⟨front, hf⟩ := List.getLast?_eq_some_iff.mp hname
          rw [hf, List.dropLast_concat] at hk
          simp only [Bool.or_eq_true, not_or, Bool.not_eq_true] at hdots
          exact ⟨front, name, k, entries, hp, hf, hdots.2, hk, entriesAt_eq_ok.mp he, hdots.1, Nat.not_lt.mp hlong,
            hn, rfl⟩

lemma found?_of_target {p : Path} {l : Node.Location} (h : t.target p = .ok l) : t.root.found? l ≠ some none := by
  obtain ⟨front, name, k, entries, -, -, -, -, he, -, -, hn, rfl⟩ := target_eq_ok h
  rw [found?_concat he]
  cases hf : entries.lookup name with
  | none => simp
  | some node =>
    cases node with
    | file f => simp [Node.file?]
    | dir es => exact (hn es hf).elim

lemma found?_write {p : Path} {b : Bytes} (h : t.write p b = .ok t') : ∃ l, t.target p = .ok l ∧
    ∀ m, t'.root.found? m = if m = l then some (some { content := .octets b }) else t.root.found? m := by
  obtain ⟨l, hl, h⟩ := bind_eq_ok.mp h
  cases h
  have hc := found?_of_target hl
  obtain ⟨front, name, k, entries, -, -, -, -, he, -, -, -, rfl⟩ := target_eq_ok hl
  exact ⟨k ++ [name], hl, Node.found?_put he hc fun j => Node.found?_file⟩

lemma isDots_eq_false_iff {n : Name} : isDots n = false ↔ n ≠ Path.here ∧ n ≠ Path.up := by
  rw [isDots, Bool.or_eq_false_iff, beq_eq_false_iff_ne, beq_eq_false_iff_ne]

lemma isDots_of_getLast? {n : Name} {b : UInt8} (h : n.getLast? = some b) (hb : b ≠ Path.dot) : isDots n = false := by
  rw [isDots_eq_false_iff]
  constructor <;> rintro rfl <;> exact hb (Option.some.inj h).symm

lemma write_eq_ok {p : Path} {b : Bytes} (h : t.write p b = .ok t') : ∃ l, t'.locate p = .ok l ∧ Grows t t' ∧
    ∀ m, t'.fileAt? m = if m = l then some { content := .octets b } else t.fileAt? m := by
  rw [write] at h
  obtain ⟨l, hl, h⟩ := bind_eq_ok.mp h
  cases h
  obtain ⟨front, name, k, entries, hp, hs, hslash, hk, he, hdots, hlong, -, rfl⟩ := target_eq_ok hl
  have hc := found?_of_target hl
  have hb : ∀ j ≠ [], (Node.file { content := .octets b }).found? j = none := fun j => Node.found?_file
  have hg := grows_put he hc hb
  refine ⟨k ++ [name], ?_, hg, fun m => fileAt?_put he hc hb m⟩
  have hd : t.root.found? k = some none := found?_eq_dir_iff.mpr ⟨entries, he⟩
  rw [isDots_eq_false_iff] at hdots
  rw [locate_eq_ok, hg.start, hslash, if_neg (by simp), List.append_nil, hs, ← List.append_assoc]
  refine ⟨hp, follow_concat_eq_ok.mpr ⟨k, hg.follow hk, hg.dirs hd, ?_⟩⟩
  rw [if_neg hdots.1, if_neg hdots.2]
  refine ⟨hlong, ?_, rfl⟩
  rw [put, Node.found?_put he hc hb, if_pos rfl]
  nofun

lemma read_of_write {p : Path} {b : Bytes} (h : t.write p b = .ok t') : t'.read p = .ok b := by
  obtain ⟨l, hl, -, hf⟩ := write_eq_ok h
  exact read_of_fileAt? hl ((hf l).trans (if_pos rfl))

lemma readText_of_write {p : Path} {text : String} (h : t.write p (Octets.ofString text) = .ok t') :
    t'.readText p = .ok text :=
  bind_eq_ok.mpr ⟨_, read_of_write h, by rw [Octets.toString?_ofString]⟩

end Tree

end Conformance
