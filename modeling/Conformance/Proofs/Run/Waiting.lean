import Conformance.Proofs.Text.Lenient
import Conformance.Proofs.Text.Numeral
import Conformance.Proofs.Text.Trimming
import Conformance.Run.Docker

/-! Waiting for a container. What the program prints last decides on the status, whatever it printed before, and a
limit matters only to a program that is still running when it is reached. -/

namespace Conformance

namespace Text

def LastLine (s l : List Char) : Prop :=
  '\n' ∉ l ∧ ∃ front, s = front ++ l ∧ (front = [] ∨ front.getLast? = some '\n')

end Text

namespace Docker

variable {s l : List Char} {n : Int}

lemma lastLine_eq_iff : lastLine s = l ↔ Text.LastLine s l := by
  constructor
  · rintro rfl
    refine ⟨fun h => ?_, s.rdropWhile (· ≠ '\n'), List.rdropWhile_append_rtakeWhile.symm, ?_⟩
    · have hc := List.mem_rtakeWhile_imp (p := (· ≠ '\n')) h
      simp at hc
    · by_cases hf : s.rdropWhile (· ≠ '\n') = []
      · exact .inl hf
      · have hc := List.rdropWhile_last_not (· ≠ '\n') s hf
        simp only [decide_eq_true_eq, not_not] at hc
        exact .inr (by rw [List.getLast?_eq_some_getLast hf, hc])
  · rintro ⟨hl, front, rfl, hf⟩
    have hstop : front.reverse.takeWhile (· ≠ '\n') = [] := by
      rcases hf with rfl | hf
      · rfl
      · obtain ⟨front, rfl⟩ := List.getLast?_eq_some_iff.mp hf
        simp
    have hall : ∀ c ∈ l.reverse, decide (c ≠ '\n') = true := by
      intro c hc
      rw [decide_eq_true_eq]
      rintro rfl
      exact hl (List.mem_reverse.mp hc)
    rw [lastLine, List.reverse_append, List.takeWhile_append_of_pos hall, hstop, List.append_nil, List.reverse_reverse]

def Tells (output : Bytes) (n : Int) : Prop :=
  ∃ line, Text.LastLine (Text.trim (Octets.lenient output)) line ∧ Decimal.Numeral (Text.trim line) n

lemma status_cases (output : Bytes) :
    (∃ n, status output = .ok n) ∨ ∃ reason, status output = .error (.engine reason) := by
  rw [status]
  split
  · exact .inl ⟨_, rfl⟩
  · exact .inr ⟨_, rfl⟩

lemma status_eq_ok {output : Bytes} : status output = .ok n ↔ Tells output n := by
  have hs : Tells output n ↔ Decimal.signed? (Text.trim (lastLine (Text.trim (Octets.lenient output)))) = some n := by
    simp only [Tells, ← lastLine_eq_iff, exists_eq_left', Decimal.signed?_eq_some_iff]
  rw [hs, status]
  split <;> simp_all

lemma isRun_ofInt (n : Int) : Text.IsRun Text.isBlank (Decimal.ofInt n) := by
  refine ⟨Decimal.ofInt_ne_nil n, fun c hc => ?_⟩
  have hb := Decimal.toNat_bounds_of_mem_ofInt hc
  simp only [Text.isBlank, Bool.or_eq_false_iff, Bool.and_eq_false_iff, decide_eq_false_iff_not, beq_eq_false_iff_ne]
  omega

lemma newline_notMem_ofInt (n : Int) : '\n' ∉ Decimal.ofInt n := by
  intro h
  have hb := (Decimal.toNat_bounds_of_mem_ofInt h).1
  revert hb
  decide

lemma lenient_lines {earlier : Bytes} (h : earlier = [] ∨ earlier.getLast? = some 10) :
    (∀ rest, Octets.lenient (earlier ++ rest) = Octets.lenient earlier ++ Octets.lenient rest) ∧
      (Octets.lenient earlier = [] ∨ (Octets.lenient earlier).getLast? = some '\n') := by
  rcases h with rfl | h
  · exact ⟨fun rest => by simp [Octets.lenient], .inl (by simp [Octets.lenient])⟩
  · obtain ⟨front, rfl⟩ := List.getLast?_eq_some_iff.mp h
    have hlines (rest : Bytes) : Octets.lenient (front ++ [10] ++ rest) =
        Octets.lenient front ++ '\n' :: Octets.lenient rest := by
      rw [List.append_assoc]
      exact Octets.lenient_append_ascii (by decide) front rest
    have hfront : Octets.lenient (front ++ [10]) = Octets.lenient front ++ ['\n'] := by
      have hl := hlines []
      rwa [List.append_nil, Octets.lenient] at hl
    refine ⟨fun rest => ?_, .inr ?_⟩
    · rw [hlines, hfront, List.append_assoc]
      rfl
    · rw [hfront, List.getLast?_concat]

lemma tells_line {earlier : Bytes} (h : earlier = [] ∨ earlier.getLast? = some 10) (hl : Decimal.least64 ≤ n)
    (hg : n ≤ Decimal.greatest64) : Tells (earlier ++ Octets.ofString (.ofList (Decimal.ofInt n)) ++ [10]) n := by
  obtain ⟨happend, hend⟩ := lenient_lines h
  have hsolid := (isRun_ofInt n).solid
  have htext : Octets.lenient (earlier ++ Octets.ofString (.ofList (Decimal.ofInt n)) ++ [10]) =
      Octets.lenient earlier ++ Decimal.ofInt n ++ ['\n'] := by
    have hascii : ∀ c ∈ (String.ofList (Decimal.ofInt n)).toList, c.toNat < 128 := by
      intro c hc
      rw [String.toList_ofList] at hc
      have hb := Decimal.toNat_bounds_of_mem_ofInt hc
      omega
    have hend : Octets.lenient [10] = ['\n'] := by
      rw [Octets.lenient_cons_ascii (by decide), Octets.lenient]
      rfl
    rw [List.append_assoc, happend, Octets.lenient_ofString_append hascii, hend, String.toList_ofList, List.append_assoc]
  -- The line feed behind the status is trimmed off, and in front of it no more than the earlier lines begin with.
  have htrim : Text.trim (Octets.lenient (earlier ++ Octets.ofString (.ofList (Decimal.ofInt n)) ++ [10])) =
      Text.trimStart (Octets.lenient earlier) ++ Decimal.ofInt n := by
    rw [htext, Text.trim_append_blanks _ (List.forall_mem_singleton.mpr rfl), Text.trim_append_solid _ hsolid]
  refine ⟨Decimal.ofInt n, ⟨newline_notMem_ofInt n, _, htrim, ?_⟩, ?_⟩
  · rcases hend with he | he
    · exact .inl (by rw [he]; rfl)
    · exact or_iff_not_imp_left.mpr fun hne => (Text.getLast?_trimStart hne).trans he
  · have hself := Text.trim_append_solid [] hsolid
    rw [List.nil_append] at hself
    rw [hself]
    exact Decimal.numeral_ofInt hl hg

namespace Execution

variable {p : Execution} {limit : Nat}

lemma seenEnded_of_lasts_lt (hends : p.endsUnread = true) (h : p.lasts < limit) (now : Nat) :
    p.seenEnded limit now = true := by
  fun_induction p.seenEnded limit now with
  | case1 => rfl
  -- A look that finds the limit reached comes after the end, which it would have seen.
  | case2 now hrunning hreached => exact absurd ⟨hends, by omega⟩ hrunning
  | case3 now hrunning hreached ih => exact ih

lemma seenEnded_of_never (h : p.ending = .never) (now : Nat) : p.seenEnded limit now = false := by
  fun_induction p.seenEnded limit now with
  | case1 now hseen => simp [endsUnread, h] at hseen
  | case2 => rfl
  | case3 now hrunning hreached ih => exact ih

end Execution

variable {id : String} {p : Execution}

lemma succeeded_iff : p.succeeded = true ↔ p.ending = .exited 0 := by
  rw [Execution.succeeded, Execution.exitCode]
  cases p.ending <;> simp

lemma read_wait_eq_ok {limit : Option Duration} :
    read id p (.wait limit) = .ok (.exited n) ↔ p.ending = .exited 0 ∧ Tells p.stdout n := by
  rw [read, ← status_eq_ok, ← succeeded_iff]
  split
  · next hs =>
    cases status p.stdout <;> simp [Except.map, hs]
  · next hs => simp [hs]

lemma read_wait_cases (id : String) (p : Execution) (limit : Option Duration) :
    (∃ n, read id p (.wait limit) = .ok (.exited n)) ∨ ∃ reason, read id p (.wait limit) = .error (.engine reason) := by
  rw [read]
  split
  · rcases status_cases p.stdout with ⟨n, hn⟩ | ⟨reason, hr⟩
    · exact .inl ⟨n, by rw [hn, Except.map]⟩
    · exact .inr ⟨reason, by rw [hr, Except.map]⟩
  · exact .inr ⟨_, rfl⟩

end Docker

end Conformance
