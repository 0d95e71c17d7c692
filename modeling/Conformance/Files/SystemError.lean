import Conformance.Text.Decimal

namespace Conformance

inductive SystemError where
  | notFound
  | permissionDenied
  | alreadyExists
  | notDirectory
  | isDirectory
  | invalidArgument
  | nameTooLong
  | addressUnavailable
  | networkUnreachable
  | connectionRefused
  | notText
  | nulInName
  | nulInArgument
  | lookupUnavailable
  | unknownHost
  deriving DecidableEq

namespace SystemError

def coded (text : String) (code : Nat) : String :=
  text ++ " (os error " ++ .ofList (Decimal.ofNat code) ++ ")"

def lookup (text : String) : String :=
  "failed to lookup address information: " ++ text

def message : SystemError → String
  | notFound => coded "No such file or directory" 2
  | permissionDenied => coded "Permission denied" 13
  | alreadyExists => coded "File exists" 17
  | notDirectory => coded "Not a directory" 20
  | isDirectory => coded "Is a directory" 21
  | invalidArgument => coded "Invalid argument" 22
  | nameTooLong => coded "File name too long" 36
  | addressUnavailable => coded "Cannot assign requested address" 99
  | networkUnreachable => coded "Network is unreachable" 101
  | connectionRefused => coded "Connection refused" 111
  | notText => "stream did not contain valid UTF-8"
  | nulInName => "file name contained an unexpected NUL byte"
  | nulInArgument => "nul byte found in provided data"
  | lookupUnavailable => lookup "Temporary failure in name resolution"
  | unknownHost => lookup "Name or service not known"

end SystemError

end Conformance
