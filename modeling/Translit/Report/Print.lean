import Translit.Report.Basic

/-
  Printing a report.

  A report is printed piece by piece, by an action that
  writes a text or fails.  The first failed write ends the
  report.  A line count that is no word and a column that is
  too wide break it off.

  Key definitions include:
    * `Report.Halt`
    * `Report.Printer`
    * `Report.printLine`
    * `Report.printSummary`
    * `Report.printRules`
    * `Report.print`
-/

------------------------------------------------------------
-- Printers
------------------------------------------------------------

namespace Translit

namespace Report

/- What ends a report early. -/
inductive Halt
    (ε : Type)
| refused (fault : ε)
| broken
deriving DecidableEq

/- Programs that print and can end early. -/
abbrev Printer
    (m : Type → Type)
    (ε α : Type) :=
  ExceptT (Halt ε) m α

variable {m : Type → Type} [Monad m] {ε : Type}

/- Write a text, and end if that fails. -/
def put
    (write : Text → m (Except ε Unit))
    (t : Text) : Printer m ε Unit :=
  ExceptT.mk do
    match ← write t with
    | .ok () => return .ok ()
    | .error fault => return .error (.refused fault)

/- Go on with a value, and break off if there is none. -/
def demand
    {α : Type} :
    Option α → Printer m ε α
| some a => pure a
| none => throw .broken

end Report

end Translit

------------------------------------------------------------
-- Sections
------------------------------------------------------------

namespace Translit

namespace Report

variable {m : Type → Type} [Monad m] {ε : Type}

/- Print a line, span by span, and its line feed. -/
def printLine
    (write : Text → m (Except ε Unit))
    (palette : Palette)
    (line : Line) : Printer m ε Unit := do
  line.forM fun span => put write (span.render palette)
  put write ['\n']

/- Print an empty line and a heading. -/
def printHeading
    (write : Text → m (Except ε Unit))
    (palette : Palette)
    (title : Text) : Printer m ε Unit :=
  (heading title).forM (printLine write palette)

/- Print the counts of lines and of rules. -/
def printSummary
    (write : Text → m (Except ε Unit))
    (palette : Palette)
    (details : Details) : Printer m ε Unit := do
  let lines ← demand (lineCount? details.hits)
  printLine write palette (countLine lines details.manual)
  printLine write palette
    (gatingLine details.tried details.skipped)

/- Print a row for each rule that has won lines. -/
def printRules
    (write : Text → m (Except ε Unit))
    (palette : Palette)
    (hits : List RuleHit) : Printer m ε Unit :=
  if (fired hits).isEmpty then
    printLine write palette noticeLine
  else
    (fired hits).forM fun hit => do
      let name ←
        demand (padTo? (nameWidth (fired hits)) hit.rule)
      printLine write palette (rowLine name hit.count)

/- Print the elapsed time. -/
def printTiming
    (write : Text → m (Except ε Unit))
    (palette : Palette)
    (elapsed : Elapsed) : Printer m ε Unit :=
  (timing elapsed).forM (printLine write palette)

/- Print a report. -/
def print
    (write : Text → m (Except ε Unit))
    (palette : Palette)
    (details : Details)
    (elapsed : Elapsed)
    (mode : Mode) : Printer m ε Unit := do
  details.records.forM fun record =>
    printLine write palette (recordLine mode record)
  printHeading write palette "Summary"
  printSummary write palette details
  printHeading write palette "Rules"
  printRules write palette details.hits
  printHeading write palette "Timing"
  printTiming write palette elapsed

end Report

end Translit
