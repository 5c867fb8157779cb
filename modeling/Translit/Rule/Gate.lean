import Translit.Text.Blank
import Translit.Rule.Basic

/-
  Gates: cheap tests before a pattern is tried.

  A gate asks for marks that must occur somewhere in a line
  and for a keyword at its start, after the indentation.  A
  line that a rule's pattern matches always passes the rule's
  gate, so that closed gates only save work.

  Key definitions include:
    * `Mark`
    * `Gate`
    * `Gate.admits`
    * `Gate.isOpen`
    * `Rule.gate`
    * `Table.catchAll?`
-/

------------------------------------------------------------
-- Gates
------------------------------------------------------------

namespace Translit

/- Characters that a gate may ask for. -/
inductive Mark
| quote
| hash
| equals
| dot
deriving DecidableEq

namespace Mark

/- Whether a character bears the mark. -/
def holds : Mark → Char → Bool
| .quote, c => c == '\'' || c == '"'
| .hash, c => c == '#'
| .equals, c => c == '='
| .dot, c => c == '.'

end Mark

/-
  The marks a line must hold, and the keywords of which one
  must start the line.  No keywords means any start.
-/
structure Gate where
  keywords : List Text
  marks : List Mark
deriving DecidableEq

namespace Gate

/- Whether a line holds all marks of a gate. -/
def marksIn
    (gate : Gate)
    (line : Text) : Bool :=
  gate.marks.all fun mark => line.any mark.holds

/- Whether a line starts with a keyword of a gate. -/
def startsLine
    (gate : Gate)
    (line : Text) : Bool :=
  gate.keywords.isEmpty ||
    gate.keywords.any fun w => w.isPrefixOf line.unindented

/- Whether a line passes a gate. -/
def admits
    (gate : Gate)
    (line : Text) : Bool :=
  gate.marksIn line && gate.startsLine line

/- Whether a gate asks for nothing. -/
def isOpen
    (gate : Gate) : Bool :=
  gate.keywords.isEmpty && gate.marks.isEmpty

end Gate

end Translit

------------------------------------------------------------
-- Gates of the Rules
------------------------------------------------------------

namespace Translit

namespace Rule

/- The gate in front of each rule's pattern. -/
def gate : Rule → Gate
| .require => ⟨["require"], [.quote]⟩
| .comment => ⟨["#"], [.hash]⟩
| .methodHeader => ⟨["def"], []⟩
| .blockEnd => ⟨["end"], []⟩
| .ifBranch => ⟨["if"], []⟩
| .unlessBranch => ⟨["unless"], []⟩
| .elsifBranch => ⟨["elsif"], []⟩
| .elseBranch => ⟨["else"], []⟩
| .beginBlock => ⟨["begin"], []⟩
| .rescueClause => ⟨["rescue"], []⟩
| .ensureClause => ⟨["ensure"], []⟩
| .fileUtilsCall => ⟨["FileUtils."], [.dot]⟩
| .fileCall => ⟨["File."], [.dot]⟩
| .constant => ⟨[], [.equals]⟩
| .assignment => ⟨[], [.equals]⟩
| .print => ⟨["puts", "print"], []⟩
| .warn => ⟨["warn"], []⟩
| .exit => ⟨["exit"], []⟩
| .manual => ⟨[], []⟩

end Rule

namespace Table

/-
  The position of the catch-all: the last rule of the table,
  if its gate asks for nothing.
-/
def catchAll?
    (table : Table) : Option Nat :=
  if table.getLast?.any fun rule => rule.gate.isOpen then
    some (table.length - 1)
  else
    none

end Table

end Translit
