import Conformance.Files.Tree
import Conformance.Run.Error

namespace Conformance

/-- A network: whether an endpoint takes a connection within some time, and what it then answers to PING. -/
abbrev Network := Endpoint → Duration → Except SystemError (Except ClientError Reply)

def Network.dial (net : Network) (endpoint : Endpoint) (limit : Duration) :
    Except SystemError (Except ClientError Reply) :=
  if endpoint.host.toList.contains '\x00' then .error .nulInName else net endpoint limit

namespace Instance

def preflight (ping : Except ClientError Reply) : Except RunError Unit :=
  match ping with
  | .error e => .error (.client e)
  | .ok reply => if reply.isPong then .ok () else .error (.preflight ("unexpected PING reply " ++ reply.shown))

def serverArgs (port : Nat) (extra : List String) : List String :=
  ["--port", .ofList (Decimal.ofNat port), "--bind", "0.0.0.0", "--protected-mode", "no"] ++ extra

def launch (t : Tree) (binary : Path) (args : List String) : Except SystemError Program :=
  if binary.octets.contains 0 || args.any (·.toList.contains '\x00') then .error .nulInArgument
  else if !binary.octets.contains Path.slash then
    .error (if Node.maxName < binary.octets.length then .nameTooLong
      else if Tree.isDots binary.octets then .permissionDenied else .notFound)
  else match t.node binary with
    | .error e => .error e
    | .ok (.file { program := some program, .. }) => .ok program
    | .ok _ => .error .permissionDenied

def startServer (t : Tree) (net : Network) (endpoint : Endpoint) (config : Config) (binary : Path)
    (args : List String) : Except RunError (Except ClientError Reply) :=
  match launch t binary (serverArgs endpoint.port args) with
  | .error e => .error (.server (binary.shown ++ ": " ++ e.message))
  | .ok (.exits status) =>
    if config.startupTimeout = .zero then .error (.server (noReply config))
    else .error (.server ("server exited early with exit status: " ++ .ofList (Decimal.ofNat status)))
  | .ok .hangs =>
    match net.dial endpoint config.connectTimeout with
    | .ok (.ok reply) => if reply.isPong then .ok (.ok reply) else .error (.server (noReply config))
    | _ => .error (.server (noReply config))
where
  noReply (config : Config) : String := "no PING reply within " ++ config.startupTimeout.text

def «open» (t : Tree) (net : Network) (endpoint : Endpoint) (config : Config) :
    Except RunError (Except ClientError Reply) :=
  match config.instanceMode with
  | .external =>
    match net.dial endpoint config.connectTimeout with
    | .ok ping => .ok ping
    | .error e => .error (.client (.connect endpoint e.message))
  | .managed binary args => startServer t net endpoint config binary args

end Instance

end Conformance
