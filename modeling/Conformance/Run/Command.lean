import Conformance.Instance.Client
import Conformance.Text.Blank

namespace Conformance

def vendorCommand (runner : String) (endpoint : Endpoint) (tags : String) (extra : List String) : List String :=
  [runner, "--host", Endpoint.containerHost endpoint.host, "--port", .ofList (Decimal.ofNat endpoint.port),
    "--verbose", "--dump-logs", "--tags", tags] ++ extra

def needsQuotes (afterTags : Bool) (arg : String) : Bool :=
  afterTags || arg == "" || arg.toList.any Text.isBlank

def renderArgs (afterTags : Bool) : List String → List String
  | [] => []
  | arg :: rest => (if needsQuotes afterTags arg then "\"" ++ arg ++ "\"" else arg) :: renderArgs (arg == "--tags") rest

def renderCommand (command : List String) : String :=
  " ".intercalate (renderArgs false command)

structure ContainerSpec where
  image : String
  command : List String
  extraHosts : List String
  deriving DecidableEq

namespace ContainerSpec

def hostGateway : String :=
  Endpoint.hostAlias ++ ":host-gateway"

def runArgs (spec : ContainerSpec) : List String :=
  ["run", "-d"] ++ spec.extraHosts.flatMap (fun h => ["--add-host", h]) ++ [spec.image] ++ spec.command

end ContainerSpec

end Conformance
