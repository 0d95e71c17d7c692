import Conformance.Wire.Reply

/-!
Reading replies off the octets of a connection. A reading has an outcome and leaves the octets it did not take,
also where it fails, so that the next reading goes on from there.
-/

namespace Conformance.Reply

inductive Fault where
  | closed
  | cutShort
  | tooDeep
  | badHeader
  | headerNotText
  | badInteger (text : String)
  | bulkTooLong (length : Int)
  | bulkUnterminated
  | unknownKind (kind : Char)
  deriving DecidableEq

structure Reading (α : Type) where
  outcome : Except Fault α
  rest : Bytes

def Reading.fail {α : Type} (e : Fault) (rest : Bytes) : Reading α :=
  ⟨.error e, rest⟩

def Reading.ok {α : Type} (a : α) (rest : Bytes) : Reading α :=
  ⟨.ok a, rest⟩

def Reading.andThen {α β : Type} (r : Reading α) (f : α → Bytes → Reading β) : Reading β :=
  match r.outcome with
  | .ok a => f a r.rest
  | .error e => fail e r.rest

def maxDepth : Nat := 32

def maxBulk : Nat := 512 * 1024 * 1024

def crlf : Bytes := [13, 10]

def headerText (line : Bytes) : Except Fault String :=
  match line.reverse with
  | 13 :: b :: front =>
    match Octets.toString? (b :: front).reverse with
    | some s => .ok s
    | none => .error .headerNotText
  | _ => .error .badHeader

def readHeader (data : Bytes) : Reading String :=
  if data = [] then .fail .closed []
  else match data.dropWhile (· != 10) with
    | [] => .fail .badHeader []
    | _ :: rest => ⟨headerText (data.takeWhile (· != 10)), rest⟩

def readBulk (length : Nat) (data : Bytes) : Reading Reply :=
  if data.length < length + 2 then .fail .cutShort []
  else if (data.drop length).take 2 = crlf then .ok (.bulk (data.take length)) (data.drop (length + 2))
  else .fail .bulkUnterminated (data.drop (length + 2))

def readMany {α : Type} (read : Bytes → Reading α) : Nat → Bytes → Reading (List α)
  | 0, data => .ok [] data
  | n + 1, data => (read data).andThen fun a rest => (readMany read n rest).andThen fun as rest => .ok (a :: as) rest

def withInteger (text : List Char) (data : Bytes) (f : Int → Reading Reply) : Reading Reply :=
  match Decimal.signed? text with
  | some n => f n
  | none => .fail (.badInteger (.ofList text)) data

def readBody (readItem : Bytes → Reading Reply) (line : String) (data : Bytes) : Reading Reply :=
  match line.toList with
  | '+' :: text => .ok (.status (.ofList text)) data
  | '-' :: text => .ok (.error (.ofList text)) data
  | ':' :: text => withInteger text data fun n => .ok (.integer n) data
  | '$' :: text => withInteger text data fun n =>
    if n < 0 then .ok .nullBulk data
    else if maxBulk < n.toNat then .fail (.bulkTooLong n) data
    else readBulk n.toNat data
  | '*' :: text => withInteger text data fun n =>
    if n < 0 then .ok .nullArray data
    else (readMany readItem n.toNat data).andThen fun items rest => .ok (.array items) rest
  | kind :: _ => .fail (.unknownKind kind) data
  | [] => .fail .badHeader data

def readAt : Nat → Bytes → Reading Reply
  | 0, data => .fail .tooDeep data
  | room + 1, data => (readHeader data).andThen (readBody (readAt room))

def read (data : Bytes) : Reading Reply :=
  readAt (maxDepth + 1) data

def readings : Nat → Bytes → List (Reading Reply)
  | 0, _ => []
  | n + 1, data => read data :: readings n (read data).rest

end Conformance.Reply
