import Conformance.Proofs.Wire.Decoding
import Conformance.Wire.Command

namespace Conformance.Command

open Reply

def asReply (args : List String) : Reply :=
  .array (args.map fun a => .bulk (Octets.ofString a))

def Framable (args : List String) : Prop :=
  args.length ≤ Decimal.greatest64 ∧ ∀ a ∈ args, (Octets.ofString a).length ≤ 536870912

lemma header_count {kind : Char} (h : kind ≠ '\n') (n : Nat) :
    Header kind (Decimal.ofNat n) (count kind n) := by
  refine ⟨.ofList (kind :: Decimal.ofNat n), by simp, ?_, by simp [count, crlf]⟩
  rw [Octets.ascii_mem_ofString (by decide) (c := '\n') rfl, String.toList_ofList, List.mem_cons, not_or]
  exact ⟨h.symm, fun hm => absurd ((Decimal.digits_ofNat n).2 _ hm).1 (by decide)⟩

lemma frame_encodeArg {d : Nat} (hd : d ≤ 32) {a : String} (h : (Octets.ofString a).length ≤ 536870912) :
    Frame d (.bulk (Octets.ofString a)) (encodeArg a) := by
  have hn := Decimal.numeral_ofNat (n := (Octets.ofString a).length) (by simp only [Decimal.greatest64]; omega)
  rw [encodeArg, crlf, List.append_assoc]
  exact .bulk hd (header_count (by decide) _) hn (by omega) (by omega) rfl

lemma frames_args {d : Nat} (hd : d ≤ 32) {args : List String}
    (h : ∀ a ∈ args, (Octets.ofString a).length ≤ 536870912) :
    Frames d (args.map fun a => .bulk (Octets.ofString a)) (args.flatMap encodeArg) := by
  induction args with
  | nil => exact .nil
  | cons a args ih =>
    simp only [List.map_cons, List.flatMap_cons]
    exact .cons (frame_encodeArg hd (h a (by simp))) (ih fun b hb => h b (by simp [hb]))

lemma frame_encode {args : List String} (h : Framable args) : Frame 0 (asReply args) (encode args) :=
  .array (by decide) (header_count (by decide) _) (Decimal.numeral_ofNat h.1) (by simp) (frames_args (by decide) h.2)

lemma read_encode {args : List String} (h : Framable args) (rest : Bytes) :
    read (encode args ++ rest) = .ok (asReply args) rest :=
  (exact_read _ _ _).mpr ⟨_, frame_encode h, rfl⟩

lemma readings_flatMap_encode {commands : List (List String)} (h : ∀ args ∈ commands, Framable args) (t : Bytes) :
    readings commands.length (commands.flatMap encode ++ t) =
      commands.mapIdx fun k args => .ok (asReply args) ((commands.drop (k + 1)).flatMap encode ++ t) := by
  induction commands with
  | nil => rfl
  | cons args commands ih =>
    have hr := read_encode (h args (by simp)) (commands.flatMap encode ++ t)
    rw [List.flatMap_cons, List.append_assoc, List.length_cons, readings, hr, List.mapIdx_cons]
    have hi := ih fun x hx => h x (by simp [hx])
    simpa [Reading.ok] using hi

lemma drop_flatMap_encode (commands : List (List String)) (t : Bytes) (k : Nat) :
    (commands.flatMap encode ++ t).drop ((commands.take k).flatMap encode).length =
      (commands.drop k).flatMap encode ++ t := by
  have h : commands.flatMap encode ++ t =
      (commands.take k).flatMap encode ++ ((commands.drop k).flatMap encode ++ t) := by
    rw [← List.append_assoc, ← List.flatMap_append, List.take_append_drop]
  rw [h, List.drop_left]

/-- Commands are read back: each reading succeeds, gives the command whose turn it is and ends where its octets end.
After the last one all that is left is what followed the commands. -/
theorem readings_encode {commands : List (List String)} (h : ∀ args ∈ commands, Framable args) (t : Bytes) :
    let data := commands.flatMap encode ++ t
    readings commands.length data =
        commands.mapIdx (fun k args => .ok (asReply args) (data.drop ((commands.take (k + 1)).flatMap encode).length)) ∧
      (readings commands.length data).getLast?.elim data Reading.rest = t := by
  intro data
  have hr := readings_flatMap_encode h t
  refine ⟨by simp only [data, hr, drop_flatMap_encode], ?_⟩
  simp only [data, hr, List.getLast?_mapIdx]
  cases hl : commands.getLast? with
  | none => simp [List.getLast?_eq_none_iff.mp hl]
  | some args => simp [Reading.ok, List.drop_of_length_le (show commands.length ≤ commands.length - 1 + 1 by omega)]

theorem readings_encode_marks :
    let commands := [["SET", "k\r\n$1", "é*"], [], ["PING"]]
    let data := commands.flatMap encode ++ Octets.ofString "*9\r\n"
    (∀ args ∈ commands, Framable args) ∧
      readings 3 data =
        commands.mapIdx (fun k args => .ok (asReply args) (data.drop ((commands.take (k + 1)).flatMap encode).length)) ∧
      (readings 3 data).getLast?.elim data Reading.rest = Octets.ofString "*9\r\n" := by
  intro commands data
  have h : ∀ args ∈ commands, Framable args := by
    simp only [commands, Framable]
    decide
  exact ⟨h, readings_encode h _⟩

end Conformance.Command
