import Translit.Text.Lines
import Translit.Record
import Translit.Verdict

/-
  Runs over a document.

  A run judges every line of a document by itself and keeps
  one entry for each.  Beside the entries it counts lines,
  winners, lines left for conversion by hand, and the rules
  that were tried and skipped.

  Key definitions include:
    * `Tally`
    * `Tally.count`
    * `Run`
    * `Table.run`
    * `Run.text`
-/

------------------------------------------------------------
-- Tallies
------------------------------------------------------------

namespace Translit

/- The counts of a run; `hits` has one for each table entry. -/
structure Tally where
  lines : Nat
  manual : Nat
  hits : List Nat
  tried : Nat
  skipped : Nat
deriving DecidableEq

namespace Tally

/- The counts before the first line. -/
def zero
    (table : Table) : Tally where
  lines := 0
  manual := 0
  hits := List.replicate table.length 0
  tried := 0
  skipped := 0

/-
  Whether a line is left for conversion by hand: nothing
  has won it, or the catch-all of the table.
-/
def isManual
    (table : Table)
    (verdict : Verdict) : Bool :=
  verdict.winner.isNone || verdict.winner == table.catchAll?

/- Add the verdict on one more line. -/
def count
    (table : Table)
    (tally : Tally)
    (verdict : Verdict) : Tally where
  lines := tally.lines + 1
  manual :=
    if isManual table verdict then tally.manual + 1
    else tally.manual
  hits :=
    match verdict.winner with
    | some i => tally.hits.modify i (· + 1)
    | none => tally.hits
  tried := tally.tried + verdict.tried
  skipped := tally.skipped + verdict.skipped

end Tally

end Translit

------------------------------------------------------------
-- Runs
------------------------------------------------------------

namespace Translit

/- One entry per line, the counts, and the records kept. -/
structure Run where
  entries : List Text
  tally : Tally
  records : List Record
deriving DecidableEq

namespace Run

/- The entries as one document. -/
def text
    (run : Run) : Text :=
  Text.joinLines run.entries

end Run

namespace Table

/- The record of a line with its number from one. -/
def recordOf
    (table : Table)
    (number : Nat)
    (line : Text)
    (verdict : Verdict) : Record where
  number := number
  source := line.stripped
  converted := verdict.output
  rule := table.winnerLabel verdict.winner

/-
  Run a table over a document.  Records are kept only if
  they are asked for; all else is the same either way.
-/
def run
    (table : Table)
    (keepRecords : Bool)
    (document : Text) : Run :=
  let judged :=
    (Text.lines document).map fun line =>
      (line, table.judge line)
  { entries := judged.map fun j => j.2.output
    tally :=
      (judged.map Prod.snd).foldl (Tally.count table)
        (Tally.zero table)
    records :=
      if keepRecords then
        (judged.zipIdx 1).map fun j =>
          table.recordOf j.2 j.1.1 j.1.2
      else
        [] }

end Table

end Translit
