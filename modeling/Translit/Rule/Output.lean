import Translit.Condition
import Translit.Interpolation
import Translit.Rule.Form

/-
  What each rule writes.

  A rule that applies to a line writes Python text from what
  its pattern has captured.  A constant takes two lines of
  output, every other rule at most one.

  Key definitions include:
    * `manualMarker`
    * `methodName`
    * `modulePath`
    * `Rule.output`
    * `Rule.convert?`
-/

------------------------------------------------------------
-- Parts of the Output
------------------------------------------------------------

namespace Translit

/- The start of a line that has to be converted by hand. -/
def manualMarker : Text :=
  "# TODO: Manual translation needed: "

/- A line that has to be converted by hand. -/
def manualLine
    (line : Text) : Text :=
  manualMarker ++ line

/- A note for a call that has to be converted by hand. -/
def callNote
    (receiver call : Text) : Text :=
  "# TODO: Translate " ++ receiver ++ "." ++ call

/- A method name without `!`, `?` and `=`. -/
def methodName
    (name : Text) : Text :=
  name.filter fun c => c != '!' && c != '?' && c != '='

/- A required path as a dotted module name. -/
def modulePath
    (path : Text) : Text :=
  path.map fun c => if c = '/' then '.' else c

/- The text, or another one if it is empty. -/
def orElse
    (t default : Text) : Text :=
  if t.isEmpty then default else t

end Translit

------------------------------------------------------------
-- Output of the Rules
------------------------------------------------------------

namespace Translit

namespace Rule

/- What a rule writes for a line that matches its pattern. -/
def output
    (line : Text)
    (found : Captures) : Rule → Text
| .require => "import " ++ modulePath found.body
| .comment => line
| .methodHeader => "def " ++ methodName found.name ++ "():"
| .blockEnd => ""
| .ifBranch => "if " ++ Condition.convert found.body ++ ":"
| .unlessBranch =>
    "if not " ++ Condition.convert found.body ++ ":"
| .elsifBranch =>
    "elif " ++ Condition.convert found.body ++ ":"
| .elseBranch => "else:"
| .beginBlock => "try:"
| .rescueClause =>
    "except " ++ orElse found.name "Exception" ++ ":"
| .ensureClause => "# NOTE: Python 'finally:' equivalent"
| .fileUtilsCall => callNote "FileUtils" found.body
| .fileCall => callNote "File" found.body
| .constant =>
    "# Constant converted to variable:\n" ++
      found.name.map Char.toLower ++ " = " ++ found.body
| .assignment =>
    found.name ++ " = " ++ Interpolation.convert found.body
| .print => "print(" ++ Interpolation.convert found.body ++ ")"
| .warn =>
    "print(" ++ Interpolation.convert found.body ++
      ", file=sys.stderr)"
| .exit => "sys.exit(" ++ orElse found.body "0" ++ ")"
| .manual => manualLine line

/- Apply a rule to a line, if the line matches its pattern. -/
def convert?
    (rule : Rule)
    (line : Text) : Option Text :=
  (rule.form.match? line).map fun found =>
    rule.output line found.1

end Rule

end Translit
