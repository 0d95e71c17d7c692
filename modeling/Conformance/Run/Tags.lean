import Conformance.Files.Path
import Conformance.Text.Blank

/-!
Tag filters and the log files named after them. A filter is a text of words; what the caller asks for comes first
and the baseline exclusions follow.
-/

namespace Conformance.Tags

def baseline : List String :=
  ["-needs:debug", "-external:skip", "-cluster", "-repl", "-needs:config-maxmemory", "-slow"]

def trimmed (tags : String) : String :=
  .ofList (Text.trim tags.toList)

def compose (tags : String) : String :=
  trimmed (tags ++ " " ++ " ".intercalate baseline)

def logSuffix : String := ".docker.log"

def logChar (c : Char) : Char :=
  if Text.isBlank c ∨ c = '/' ∨ c = '\\' then '_' else c

def logKey (tags : String) : String :=
  let key := (Text.trim tags.toList).map logChar
  if key = [] then "all" else .ofList key

def logName (tags : String) : String :=
  logKey tags ++ logSuffix

def logPath (dir : Path) (tags : String) : Path :=
  dir.join (.ofText (logName tags))

end Conformance.Tags
