import Conformance.Json.Token
import Conformance.Json.Value

/-!
Reading a JSON text: one value, made up while its tokens go by, with the containers that are still open on a stack.
-/

namespace Conformance.Json

inductive Frame where
  | array (items : List Json)
  | object (members : List (Option String × Json)) (key : Option String)

def ofWord : Option Bool → Json
  | some b => bool b
  | none => null

mutual

def expect (stack : List Frame) : List Token → Option Json
  | .word w :: rest => after stack (ofWord w) rest
  | .number literal :: rest => after stack (number (.ofList literal)) rest
  | .string s :: rest => after stack (string (s.map .ofList)) rest
  | .mark '[' :: .mark ']' :: rest => after stack (array []) rest
  | .mark '[' :: rest => expect (.array [] :: stack) rest
  | .mark '{' :: .mark '}' :: rest => after stack (object []) rest
  | .mark '{' :: .string key :: .mark ':' :: rest => expect (.object [] (key.map .ofList) :: stack) rest
  | _ => none

def after (stack : List Frame) (v : Json) : List Token → Option Json
  | [] => match stack with
    | [] => some v
    | _ :: _ => none
  | .mark ']' :: rest => match stack with
    | .array items :: stack => after stack (array (v :: items).reverse) rest
    | _ => none
  | .mark '}' :: rest => match stack with
    | .object members key :: stack => after stack (object ((key, v) :: members).reverse) rest
    | _ => none
  | .mark ',' :: .string next :: .mark ':' :: rest => match stack with
    | .object members key :: stack => expect (.object ((key, v) :: members) (next.map .ofList) :: stack) rest
    | _ => none
  | .mark ',' :: rest => match stack with
    | .array items :: stack => expect (.array (v :: items) :: stack) rest
    | _ => none
  | _ => none

end

def read? (s : String) : Option Json :=
  (tokens s.toList).bind (expect [])

end Conformance.Json
