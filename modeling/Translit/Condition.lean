import Translit.Text.Basic

/-
  Boolean operators of a condition.

  Ruby's symbolic operators become Python's words by plain
  replacement, one operator after the other.  Nothing else in
  the condition is looked at, so the operators inside string
  literals and in `!=` are replaced as well.

  Key definitions include:
    * `Condition.operators`
    * `Condition.convert`
-/

------------------------------------------------------------
-- Conditions
------------------------------------------------------------

namespace Translit

namespace Condition

/- The operators and their words, in order of replacement. -/
def operators : List (Text × Text) :=
  [ ("&&", "and"), ("||", "or"), ("!", "not ") ]

/- Replace the operators of a list, one after the other. -/
def replaceEach
    (steps : List (Text × Text))
    (t : Text) : Text :=
  steps.foldl
    (fun text step => Text.replaceAll step.1 step.2 text) t

/- Replace all operators of a condition. -/
def convert
    (t : Text) : Text :=
  replaceEach operators t

end Condition

end Translit
