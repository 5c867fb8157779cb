import Translit.Elapsed
import Translit.Event

/-
  Conversion of Ruby text with the standard table.

  Conversion never fails, and diagnostics never change its
  text.

  Key definitions include:
    * `convertLine`
    * `convert`
    * `Showing`
    * `convertShowing`
    * `RuleHit`
    * `Details`
    * `Conversion`
    * `convertWith`
-/

------------------------------------------------------------
-- Plain Conversion
------------------------------------------------------------

namespace Translit

/- Convert one line; line feeds in it do not split it. -/
def convertLine
    (line : Text) : Text :=
  (Table.standard.judge line).output

/- Convert a document. -/
def convert
    (document : Text) : Text :=
  (Table.standard.run false document).text

end Translit

------------------------------------------------------------
-- Conversion with Diagnostics
------------------------------------------------------------

namespace Translit

/- A converted document and the diagnostics shown with it. -/
structure Showing where
  entries : List Text
  diagnostics : List Text
deriving DecidableEq

namespace Showing

/- The converted document. -/
def text
    (showing : Showing) : Text :=
  Text.joinLines showing.entries

end Showing

/-
  Convert a document and show its records in the selected
  mode, if any.
-/
def convertShowing
    (options : Options)
    (document : Text) : Showing :=
  let run := Table.standard.run options.mode?.isSome document
  { entries := run.entries
    diagnostics :=
      match options.mode? with
      | none => []
      | some mode => run.records.map (·.render mode) }

end Translit

------------------------------------------------------------
-- Conversion with Statistics
------------------------------------------------------------

namespace Translit

/- The name of a rule and the number of lines it has won. -/
structure RuleHit where
  rule : Text
  count : Nat
deriving DecidableEq

/- The records and the statistics of a run. -/
structure Details where
  mode : Option Mode
  records : List Record
  hits : List RuleHit
  manual : Nat
  tried : Nat
  skipped : Nat
deriving DecidableEq

/- A converted document and its details. -/
structure Conversion where
  entries : List Text
  details : Details
deriving DecidableEq

namespace Conversion

/- The converted document. -/
def text
    (conversion : Conversion) : Text :=
  Text.joinLines conversion.entries

end Conversion

/- The number of lines each rule of a table has won. -/
def ruleHits
    (table : Table)
    (hits : List Nat) : List RuleHit :=
  List.zipWith (fun rule n => ⟨rule.label, n⟩) table hits

/-
  Convert a document and keep its details.  Records are kept
  only if a mode is selected.
-/
def convertWith
    (options : Options)
    (document : Text) : Conversion :=
  let run := Table.standard.run options.mode?.isSome document
  { entries := run.entries
    details :=
      { mode := options.mode?
        records := run.records
        hits := ruleHits Table.standard run.tally.hits
        manual := run.tally.manual
        tried := run.tally.tried
        skipped := run.tally.skipped } }

end Translit
