import Conformance.Text.Decimal
import Conformance.Text.Octets
import Conformance.Text.Shown

namespace Conformance

inductive Reply where
  | status (text : String)
  | error (text : String)
  | integer (n : Int)
  | bulk (payload : Bytes)
  | nullBulk
  | array (items : List Reply)
  | nullArray
  deriving Inhabited

namespace Reply

def isPong : Reply → Bool
  | status text => text == "PONG"
  | bulk payload => payload == Octets.ofString "PONG"
  | _ => false

def bracketed (items : List String) : String :=
  "[" ++ ", ".intercalate items ++ "]"

mutual

def shown : Reply → String
  | status text => "Status(" ++ Text.shown text ++ ")"
  | error text => "Error(" ++ Text.shown text ++ ")"
  | integer n => "Integer(" ++ .ofList (Decimal.ofInt n) ++ ")"
  | bulk payload => "Bulk(Some(" ++ bracketed (payload.map fun b => .ofList (Decimal.ofNat b.toNat)) ++ "))"
  | nullBulk => "Bulk(None)"
  | array items => "Array(Some(" ++ bracketed (shownAll items) ++ "))"
  | nullArray => "Array(None)"

def shownAll : List Reply → List String
  | [] => []
  | r :: rest => r.shown :: shownAll rest

end

end Reply

end Conformance
