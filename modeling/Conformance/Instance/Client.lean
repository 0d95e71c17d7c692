import Conformance.Files.SystemError
import Conformance.Wire.Command

namespace Conformance

structure Endpoint where
  host : String
  port : Nat
  deriving DecidableEq

namespace Endpoint

def text (e : Endpoint) : String :=
  e.host ++ ":" ++ .ofList (Decimal.ofNat e.port)

def hostAlias : String := "host.docker.internal"

def loopback : List String :=
  ["localhost", "127.0.0.1", "::1", "[::1]", "0.0.0.0"]

/-- The host as a container has to name it: loopback would be the container itself. -/
def containerHost (host : String) : String :=
  if host ∈ loopback then hostAlias else host

end Endpoint

inductive ClientError where
  | connect (endpoint : Endpoint) (cause : String)
  | io (cause : String)
  | protocol (violation : String)
  | closed
  deriving DecidableEq

def ClientError.message : ClientError → String
  | connect endpoint cause => "cannot connect to " ++ endpoint.text ++ ": " ++ cause
  | io cause => "I/O error: " ++ cause
  | protocol violation => "protocol error: " ++ violation
  | closed => "server closed the connection"

def Reply.Fault.toClientError : Reply.Fault → ClientError
  | closed => .closed
  | cutShort => .io "failed to fill whole buffer"
  | tooDeep => .protocol "reply nested too deeply"
  | badHeader => .protocol "malformed reply header"
  | headerNotText => .protocol "reply header is not UTF-8"
  | badInteger text => .protocol ("invalid integer " ++ Text.shown text)
  | bulkTooLong length => .protocol ("bad bulk length " ++ .ofList (Decimal.ofInt length))
  | bulkUnterminated => .protocol "bulk string not terminated by CRLF"
  | unknownKind kind => .protocol ("unknown reply type " ++ Text.shownChar kind)

end Conformance
