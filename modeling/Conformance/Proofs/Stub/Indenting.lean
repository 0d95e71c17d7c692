import Conformance.Stub.Sheet
import Mathlib.Algebra.BigOperators.Group.List.Basic
import Mathlib.Algebra.Ring.Int.Defs
import Mathlib.Tactic.Lemma

/-! Indentation by nesting. Where steps close the indentations that they open, a sheet holds what the steps depict
by how they are nested alone. Whatever the steps are, text is only added, and the level is a walk that is held at
zero. -/

namespace Conformance

namespace Step

def rise : Step → Int
  | .indent => 1
  | .dedent => -1
  | _ => 0

end Step

namespace Sheet

def opened (xs : List Step) : Int :=
  (xs.map Step.rise).sum

inductive Balanced : List Step → Prop
  | mk {xs : List Step} (open_nonneg : ∀ k ≤ xs.length, 0 ≤ opened (xs.take k)) (closed : opened xs = 0)
      (bodies : ∀ header body, Step.suite header body ∈ xs → Balanced body) : Balanced xs

mutual

def depict (n : Nat) : Step → String
  | .line text => indentation n ++ text ++ "\n"
  | .comment text => indentation n ++ commentText text ++ "\n"
  | .blank => "\n"
  | .margin => indentation n
  | .indent => ""
  | .dedent => ""
  | .suite header body => indentation n ++ (header ++ ":") ++ "\n" ++ depictAll (n + 1) [] body

def depictAll (n : Nat) (before : List Step) : List Step → String
  | [] => ""
  | x :: rest => depict (n + (opened before).toNat) x ++ depictAll n (before ++ [x]) rest

end

variable {n : Nat} {x : Step} {xs : List Step} {s : Sheet}

lemma opened_append (xs ys : List Step) : opened (xs ++ ys) = opened xs + opened ys := by
  rw [opened, List.map_append, List.sum_append, opened, opened]

lemma opened_singleton (x : Step) : opened [x] = x.rise := by
  rw [opened, List.map_singleton, List.sum_singleton]

def Depicted (xs : List Step) : Prop :=
  ∀ s : Sheet, s.steps xs = ⟨s.text ++ depictAll s.level [] xs, s.level⟩

lemma step_eq (hb : ∀ header body, x = .suite header body → Depicted body) (hd : 0 ≤ s.level + x.rise) :
    s.step x = ⟨s.text ++ depict s.level x, (s.level + x.rise).toNat⟩ := by
  cases x with
  | line text => simp [step, line, margin, write, depict, Step.rise, String.append_assoc]
  | comment text => simp [step, Sheet.comment, line, margin, write, depict, Step.rise, String.append_assoc]
  | blank => simp [step, blank, write, depict, Step.rise]
  | margin => simp [step, margin, write, depict, Step.rise]
  | indent => simp [step, indent, depict, Step.rise]
  | dedent => simp [step, dedent, depict, Step.rise]; omega
  | suite header body =>
    rw [step, hb header body rfl]
    simp [line, margin, write, indent, dedent, depict, Step.rise, String.append_assoc]

lemma steps_eq (before : List Step) (hb : ∀ header body, Step.suite header body ∈ xs → Depicted body)
    (ho : ∀ k ≤ xs.length, 0 ≤ opened (before ++ xs.take k)) (hs : s.level = n + (opened before).toNat) :
    s.steps xs = ⟨s.text ++ depictAll n before xs, n + (opened (before ++ xs)).toNat⟩ := by
  induction xs generalizing before s with
  | nil => simp [steps, depictAll, ← hs]
  | cons x xs ih =>
    have hbefore : 0 ≤ opened before := by simpa using ho 0 (Nat.zero_le _)
    have hx : 0 ≤ opened before + x.rise := by
      have h := ho 1 (Nat.succ_le_succ (Nat.zero_le _))
      rwa [List.take_succ_cons, List.take_zero, opened_append, opened_singleton] at h
    have hstep := step_eq (s := s) (fun header body he => hb header body (he ▸ List.mem_cons_self)) (by omega)
    have hlevel : (s.level + x.rise).toNat = n + (opened (before ++ [x])).toNat := by
      rw [opened_append, opened_singleton]
      omega
    rw [hlevel] at hstep
    rw [steps, hstep, ih (before ++ [x]) _ _ rfl, depictAll, hs, String.append_assoc, List.append_assoc,
      List.singleton_append]
    · intro header body hm
      exact hb header body (List.mem_cons_of_mem x hm)
    · intro k hk
      have h := ho (k + 1) (Nat.succ_le_succ hk)
      rwa [List.take_succ_cons, ← List.singleton_append, ← List.append_assoc] at h

lemma Balanced.depicted (h : Balanced xs) : Depicted xs := by
  induction h with
  | mk ho hc hb ih =>
    intro s
    rw [steps_eq [] ih ho (Nat.add_zero _).symm, List.nil_append, hc]
    rfl

inductive Lengthens : String → List String → String → Prop
  | nil {t} : Lengthens t [] t
  | cons {t more us u} : Lengthens (t ++ more) us u → Lengthens t ((t ++ more) :: us) u

lemma lengthens_one (t more : String) : Lengthens t [t ++ more] (t ++ more) :=
  .cons .nil

lemma Lengthens.append {t u v : String} {us vs : List String} (h : Lengthens t us u) (h' : Lengthens u vs v) :
    Lengthens t (us ++ vs) v := by
  induction h with
  | nil => exact h'
  | cons _ ih => exact .cons (ih h')

lemma Lengthens.earlier {t more u : String} {us : List String} (h : Lengthens (t ++ more) us u) (hne : us ≠ []) :
    Lengthens t us u := by
  cases h with
  | nil => exact (hne rfl).elim
  | cons h =>
    rw [String.append_assoc] at h ⊢
    exact .cons h

mutual

def moves : Step → List Int
  | .indent => [1]
  | .dedent => [-1]
  | .suite _ body => 1 :: movesAll body ++ [-1]
  | _ => []

def movesAll : List Step → List Int
  | [] => []
  | x :: rest => moves x ++ movesAll rest

end

def walk (n : Int) (ms : List Int) : Int :=
  ms.foldl (fun n m => max 0 (n + m)) n

mutual

theorem lengthens_historyOf (s : Sheet) (x : Step) : Lengthens s.text (s.historyOf x) (s.step x).text := by
  cases x with
  | line text =>
    have h := lengthens_one s.text (indentation s.level ++ text ++ "\n")
    simpa [historyOf, step, line, margin, write, String.append_assoc] using h
  | comment text =>
    have h := lengthens_one s.text (indentation s.level ++ commentText text ++ "\n")
    simpa [historyOf, step, Sheet.comment, line, margin, write, String.append_assoc] using h
  | blank => exact lengthens_one s.text "\n"
  | margin => exact lengthens_one s.text (indentation s.level)
  | indent => simpa [historyOf, step, indent] using lengthens_one s.text ""
  | dedent => simpa [historyOf, step, dedent] using lengthens_one s.text ""
  | suite header body =>
    let inside := (s.line (header ++ ":")).indent
    have hin : inside.text = s.text ++ (indentation s.level ++ (header ++ ":") ++ "\n") := by
      simp [inside, indent, line, margin, write, String.append_assoc]
    have hbody := (lengthens_history inside body).append (lengthens_one _ "")
    rw [hin, String.append_empty] at hbody
    exact hbody.earlier (List.append_ne_nil_of_right_ne_nil _ (List.cons_ne_nil _ _))

theorem lengthens_history (s : Sheet) (xs : List Step) : Lengthens s.text (s.history xs) (s.steps xs).text := by
  cases xs with
  | nil => exact .nil
  | cons x xs => exact (lengthens_historyOf s x).append (lengthens_history (s.step x) xs)

end

lemma walk_append (n : Int) (ms more : List Int) : walk n (ms ++ more) = walk (walk n ms) more :=
  List.foldl_append

lemma level_indent (s : Sheet) : (s.indent.level : Int) = walk s.level [1] := by
  simp only [indent, walk, List.foldl_cons, List.foldl_nil]
  omega

lemma level_dedent (s : Sheet) : (s.dedent.level : Int) = walk s.level [-1] := by
  simp only [dedent, walk, List.foldl_cons, List.foldl_nil]
  omega

mutual

theorem level_step (s : Sheet) (x : Step) : ((s.step x).level : Int) = walk s.level (moves x) := by
  cases x with
  | indent => exact level_indent s
  | dedent => exact level_dedent s
  | suite header body =>
    rw [step, level_dedent, level_steps, level_indent, ← walk_append, ← walk_append]
    rfl
  | _ => rfl

theorem level_steps (s : Sheet) (xs : List Step) : ((s.steps xs).level : Int) = walk s.level (movesAll xs) := by
  cases xs with
  | nil => rfl
  | cons x xs => rw [steps, level_steps, level_step, ← walk_append, movesAll]

end

theorem steps_by_nesting (s : Sheet) (xs : List Step) :
    (Balanced xs → s.steps xs = ⟨s.text ++ depictAll s.level [] xs, s.level⟩) ∧
      Lengthens s.text (s.history xs) (s.steps xs).text ∧
      ((s.steps xs).level : Int) = walk s.level (movesAll xs) :=
  ⟨fun h => h.depicted s, lengthens_history s xs, level_steps s xs⟩

theorem steps_by_nesting_twice :
    let xs : List Step := [.indent, .suite "def f()" [.comment "", .indent, .line "pass", .blank, .dedent], .dedent, .line "x"]
    Balanced xs ∧ (⟨"a\n", 1⟩ : Sheet).steps xs =
      ⟨"a\n        def f():\n            #\n                pass\n\n    x\n", 1⟩ := by
  intro xs
  have hbody : Balanced [.comment "", .indent, .line "pass", .blank, .dedent] :=
    .mk (by decide) rfl (by simp)
  have h : Balanced xs := by
    refine .mk (by decide) rfl ?_
    intro header body hm
    obtain ⟨rfl, rfl⟩ : header = "def f()" ∧ body = _ := by simpa [xs] using hm
    exact hbody
  refine ⟨h, ((steps_by_nesting _ xs).1 h).trans ?_⟩
  have htext : "a\n" ++ depictAll 1 [] xs =
      "a\n        def f():\n            #\n                pass\n\n    x\n" := by
    decide +kernel
  exact congrArg (Sheet.mk · 1) htext

end Sheet

end Conformance
