/-!
Indented text. A sheet holds what is written so far and the level of the next line; steps write to it, and a
suite writes its header and then its body one level deeper.
-/

namespace Conformance

structure Sheet where
  text : String := ""
  level : Nat := 0

inductive Step where
  | line (text : String)
  | comment (text : String)
  | blank
  | margin
  | indent
  | dedent
  | suite (header : String) (body : List Step)
  deriving Inhabited

namespace Sheet

def indentation (level : Nat) : String :=
  .ofList (List.replicate (4 * level) ' ')

def write (s : Sheet) (text : String) : Sheet :=
  { s with text := s.text ++ text }

def margin (s : Sheet) : Sheet :=
  s.write (indentation s.level)

def line (s : Sheet) (text : String) : Sheet :=
  (s.margin.write text).write "\n"

/-- Line ends, vertical tabs, form feeds and NUL would end a comment early or spoil the module. -/
def commentChar (c : Char) : Char :=
  if c ∈ ['\r', '\n', '\x0B', '\x0C', '\x00'] then ' ' else c

def commentText (text : String) : String :=
  if text = "" then "#" else "# " ++ .ofList (text.toList.map commentChar)

def comment (s : Sheet) (text : String) : Sheet :=
  s.line (commentText text)

def blank (s : Sheet) : Sheet :=
  s.write "\n"

def indent (s : Sheet) : Sheet :=
  { s with level := s.level + 1 }

def dedent (s : Sheet) : Sheet :=
  { s with level := s.level - 1 }

mutual

def step (s : Sheet) : Step → Sheet
  | .line text => s.line text
  | .comment text => s.comment text
  | .blank => s.blank
  | .margin => s.margin
  | .indent => s.indent
  | .dedent => s.dedent
  | .suite header body => (steps ((s.line (header ++ ":")).indent) body).dedent

def steps (s : Sheet) : List Step → Sheet
  | [] => s
  | x :: rest => steps (s.step x) rest

end

mutual

/-- The text after a step; those after the steps of a suite's body come before the one after the suite. -/
def historyOf (s : Sheet) : Step → List String
  | .suite header body => history ((s.line (header ++ ":")).indent) body ++ [(s.step (.suite header body)).text]
  | x => [(s.step x).text]

def history (s : Sheet) : List Step → List String
  | [] => []
  | x :: rest => s.historyOf x ++ history (s.step x) rest

end

end Sheet

end Conformance
