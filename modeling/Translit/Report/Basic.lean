import Translit.Conversion
import Translit.Report.Style

/-
  The lines of a diagnostics report.

  The report shows the records, a summary of the counts, the
  rules that have won lines, and the elapsed time.  The sum
  of the counts has to be a word, and the names of the rules
  have to fit a column of limited width.

  Key definitions include:
    * `Report.recordLine`
    * `Report.lineCount?`
    * `Report.countLine`
    * `Report.padTo?`
    * `Report.nameWidth`
    * `Report.rowLine`
    * `Report.timing`
-/

------------------------------------------------------------
-- Records
------------------------------------------------------------

namespace Translit

namespace Report

/- A line of a report, without its line feed. -/
abbrev Line :=
  List Span

/- The style of the tag in front of a record. -/
def tagStyle : Mode → Style
| .verbose => .verboseTag
| .debug => .debugTag

/- A record with its tag in style. -/
def recordLine
    (mode : Mode)
    (record : Record) : Line :=
  [ .styled (tagStyle mode) mode.tag,
    .plain (" " ++ record.detail mode) ]

/- The heading of a section, after an empty line. -/
def heading
    (title : Text) : List Line :=
  [ [],
    [.styled .heading ("━━━ " ++ title ++ " ━━━")] ]

end Report

end Translit

------------------------------------------------------------
-- Summary
------------------------------------------------------------

namespace Translit

namespace Report

/- Add two words of 64 bits, if the sum is one as well. -/
def addWord?
    (a b : Nat) : Option Nat :=
  if a + b < UInt64.size then some (a + b) else none

/- Sum up the number of lines in words. -/
def lineCount?
    (hits : List RuleHit) : Option Nat :=
  hits.foldlM (fun total hit => addWord? total hit.count) 0

/- How many lines are left for conversion by hand. -/
def manualSpan
    (manual : Nat) : Span :=
  if manual > 0 then
    .styled .manual
      (Text.decimal manual ++ " need manual translation")
  else
    .styled .allConverted "0 need manual translation"

/- The counts of lines. -/
def countLine
    (lines manual : Nat) : Line :=
  [ .plain "  ",
    .styled .lineCount (Text.decimal lines),
    .plain " ", .styled .caption "lines",
    .plain "  │  ", manualSpan manual ]

/- The counts of rules tried and skipped. -/
def gatingLine
    (tried skipped : Nat) : Line :=
  [ .plain "  ", .styled .caption "patterns tried:",
    .plain " ", .styled .gating (Text.decimal tried),
    .plain "  ", .styled .caption "skipped by trigger:",
    .plain " ", .styled .gating (Text.decimal skipped) ]

end Report

end Translit

------------------------------------------------------------
-- Rules
------------------------------------------------------------

namespace Translit

namespace Report

/- The rules that have won lines, in their order. -/
def fired
    (hits : List RuleHit) : List RuleHit :=
  hits.filter fun hit => hit.count > 0

/- A text with spaces after it, up to a number of characters. -/
def padTo
    (width : Nat)
    (t : Text) : Text :=
  t ++ List.replicate (width - t.length) ' '

/- The largest width that a text can be padded to. -/
def maxWidth : Nat :=
  65535

/- Pad a text, if the width is in range. -/
def padTo?
    (width : Nat)
    (t : Text) : Option Text :=
  if width ≤ maxWidth then some (padTo width t) else none

/-
  The width of the column of rule names: as many characters
  as the longest name has bytes.
-/
def nameWidth
    (hits : List RuleHit) : Nat :=
  (hits.map fun hit => hit.rule.utf8Length).foldl max 0

/- A row with a name that is padded already. -/
def rowLine
    (name : Text)
    (count : Nat) : Line :=
  [ .plain "  ", .styled .ruleName name, .plain "  ",
    .styled .hitCount (Text.decimal count) ]

/- What stands in place of the rows if there are none. -/
def noticeLine : Line :=
  [.plain "  ", .styled .caption "No lines translated"]

end Report

end Translit

------------------------------------------------------------
-- Timing
------------------------------------------------------------

namespace Translit

namespace Report

/- The elapsed time, and an empty line. -/
def timing
    (elapsed : Elapsed) : List Line :=
  [ [.plain "  Total: ", .styled .elapsed elapsed.render],
    [] ]

end Report

end Translit
