import Conformance.Instance.Host
import Conformance.Instance.Open

namespace Conformance

def Network.offlineError (host : String) : SystemError :=
  let s := host.toList
  if Host.isIPv4 s || host.toLower = "localhost" then .networkUnreachable
  else match Host.zoned? s with
    | some (groups, zone) =>
      if Host.isMapped groups || Host.isMulticast groups then .networkUnreachable
      else if Host.isLinkLocal groups && zone = 0 then .invalidArgument
      else .addressUnavailable
    | none => if (Host.labels? s).any Host.isName then .lookupUnavailable else .unknownHost

def Network.offline : Network :=
  fun endpoint _ => .error (offlineError endpoint.host)

end Conformance
