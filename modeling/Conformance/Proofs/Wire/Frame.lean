import Conformance.Wire.Reader
import Conformance.Proofs.Text.Numeral

/-! The grammar of replies, apart from their reader: which octets are a frame for which reply, at which depth of
arrays within arrays. -/

namespace Conformance.Reply

def Header (kind : Char) (text : List Char) (b : Bytes) : Prop :=
  ∃ line : String, line.toList = kind :: text ∧ 10 ∉ Octets.ofString line ∧ b = Octets.ofString line ++ [13, 10]

mutual

inductive Frame : Nat → Reply → Bytes → Prop
  | status {d text b} : d ≤ 32 → Header '+' text b → Frame d (.status (.ofList text)) b
  | error {d text b} : d ≤ 32 → Header '-' text b → Frame d (.error (.ofList text)) b
  | integer {d text n b} : d ≤ 32 → Header ':' text b → Decimal.Numeral text n → Frame d (.integer n) b
  | nullBulk {d text n b} : d ≤ 32 → Header '$' text b → Decimal.Numeral text n → n < 0 → Frame d .nullBulk b
  | bulk {d text n b payload} : d ≤ 32 → Header '$' text b → Decimal.Numeral text n → 0 ≤ n → n ≤ 536870912 →
      (payload.length : Int) = n → Frame d (.bulk payload) (b ++ (payload ++ [13, 10]))
  | nullArray {d text n b} : d ≤ 32 → Header '*' text b → Decimal.Numeral text n → n < 0 → Frame d .nullArray b
  | array {d text n b items bs} : d ≤ 32 → Header '*' text b → Decimal.Numeral text n →
      (items.length : Int) = n → Frames (d + 1) items bs → Frame d (.array items) (b ++ bs)

inductive Frames : Nat → List Reply → Bytes → Prop
  | nil {d} : Frames d [] []
  | cons {d r rs b bs} : Frame d r b → Frames d rs bs → Frames d (r :: rs) (b ++ bs)

end

lemma Frame.depth_le {d : Nat} {r : Reply} {b : Bytes} (h : Frame d r b) : d ≤ 32 := by
  cases h <;> assumption

end Conformance.Reply
