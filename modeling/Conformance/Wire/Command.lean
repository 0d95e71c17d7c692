import Conformance.Text.Decimal
import Conformance.Wire.Reader

namespace Conformance.Command

def count (kind : Char) (n : Nat) : Bytes :=
  Octets.ofString (.ofList (kind :: Decimal.ofNat n)) ++ Reply.crlf

def encodeArg (arg : String) : Bytes :=
  count '$' (Octets.ofString arg).length ++ Octets.ofString arg ++ Reply.crlf

def encode (args : List String) : Bytes :=
  count '*' args.length ++ args.flatMap encodeArg

end Conformance.Command
