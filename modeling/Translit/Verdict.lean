import Translit.Rule.Gate
import Translit.Rule.Output

/-
  The verdict on one line.

  The rules of a table are walked in order.  A rule whose
  gate is closed is skipped, any other is tried, and the
  first one that applies wins the line.  A line that no rule
  wins is marked for conversion by hand.

  Key definitions include:
    * `Verdict`
    * `Table.search`
    * `Table.judge`
-/

------------------------------------------------------------
-- Verdicts
------------------------------------------------------------

namespace Translit

/-
  The position of the winning rule, what is written for the
  line, and how many rules were tried and skipped.
-/
structure Verdict where
  winner : Option Nat
  output : Text
  tried : Nat
  skipped : Nat
deriving DecidableEq

namespace Verdict

/- The verdict when the table ends without a winner. -/
def unmatched
    (line : Text) : Verdict where
  winner := none
  output := manualLine line
  tried := 0
  skipped := 0

/- The verdict when the first rule of the table wins. -/
def won
    (output : Text) : Verdict where
  winner := some 0
  output := output
  tried := 1
  skipped := 0

/- The verdict of a table with a failed rule in front. -/
def afterTry
    (verdict : Verdict) : Verdict :=
  { verdict with
    winner := verdict.winner.map (· + 1)
    tried := verdict.tried + 1 }

/- The verdict of a table with a skipped rule in front. -/
def afterSkip
    (verdict : Verdict) : Verdict :=
  { verdict with
    winner := verdict.winner.map (· + 1)
    skipped := verdict.skipped + 1 }

end Verdict

end Translit

------------------------------------------------------------
-- Search
------------------------------------------------------------

namespace Translit

namespace Table

/- Walk a table over a line without padding at its end. -/
def search
    (line : Text) : Table → Verdict
| [] => .unmatched line
| rule :: rules =>
    if rule.gate.admits line then
      match rule.convert? line with
      | some output => .won output
      | none => (search line rules).afterTry
    else
      (search line rules).afterSkip

/- The verdict of a table on a line. -/
def judge
    (table : Table)
    (line : Text) : Verdict :=
  search line.stripped table

/- The name of a winning rule, or `<none>`. -/
def winnerLabel
    (table : Table)
    (winner : Option Nat) : Text :=
  match winner.bind (table[·]?) with
  | some rule => rule.label
  | none => "<none>"

end Table

end Translit
