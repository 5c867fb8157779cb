import Translit.Run

/-
  The event log of a run.

  Events tell in order what a run does: a table without a
  catch-all, each rule that is skipped or tried for a line,
  each line that is done, and the end of the run.

  Key definitions include:
    * `Event`
    * `Event.level`
    * `Event.message`
    * `Table.lineEvents`
    * `Table.runEvents`
    * `Table.events`
-/

------------------------------------------------------------
-- Events
------------------------------------------------------------

namespace Translit

/- What can be logged. -/
inductive Event
| noCatchAll (rules : Nat)
| skipped (line : Nat) (rule : Rule)
| tried (line : Nat) (rule : Rule)
| done (line : Nat) (rule raw converted : Text)
| finished (lines manual : Nat)
deriving DecidableEq

/- How much detail an event belongs to. -/
inductive Level
| debug
| trace
deriving DecidableEq

namespace Event

/- Steps within a line are traced, all else is for debugging. -/
def level : Event → Level
| .skipped _ _ => .trace
| .tried _ _ => .trace
| _ => .debug

/- The message of an event, without its fields. -/
def message : Event → Text
| .noCatchAll _ =>
    "rule table has no catch-all; " ++
      "unmatched lines use the manual marker"
| .skipped _ _ => "rule skipped by trigger"
| .tried _ _ => "trying rule"
| .done _ _ _ _ => "translated line"
| .finished _ _ => "translation finished"

end Event

end Translit

------------------------------------------------------------
-- Logs
------------------------------------------------------------

namespace Translit

namespace Table

/-
  The steps of walking a table over a line: one event per
  rule, up to the rule that wins.
-/
def steps
    (number : Nat)
    (line : Text) : Table → List Event
| [] => []
| rule :: rules =>
    if rule.gate.admits line then
      if (rule.convert? line).isSome then
        [.tried number rule]
      else
        .tried number rule :: steps number line rules
    else
      .skipped number rule :: steps number line rules

/- The events of one line: its steps and their end. -/
def lineEvents
    (table : Table)
    (number : Nat)
    (raw : Text) : List Event :=
  let verdict := table.judge raw
  table.steps number raw.stripped ++
    [ .done number (table.winnerLabel verdict.winner) raw
        verdict.output ]

/- The events of running a table over a document. -/
def runEvents
    (table : Table)
    (document : Text) : List Event :=
  let tally := (table.run false document).tally
  ((Text.lines document).zipIdx 1).flatMap
      (fun line => table.lineEvents line.2 line.1) ++
    [ .finished tally.lines tally.manual ]

/- The events of setting up a table. -/
def setupEvents
    (table : Table) : List Event :=
  if table.catchAll?.isNone then
    [.noCatchAll table.length]
  else
    []

/- All events of setting up a table and running it. -/
def events
    (table : Table)
    (document : Text) : List Event :=
  table.setupEvents ++ table.runEvents document

end Table

end Translit
