import Translit.Text.Blank
import Translit.Text.Quoted

/-
  Records of converted lines, and the diagnostic modes.

  A record keeps what happened to one line.  Verbose mode
  shows the trimmed texts, debug mode shows the line number
  and the texts in quotes, so that a debug record is one
  line and can be read back.

  Key definitions include:
    * `Mode`
    * `Options`
    * `Options.mode?`
    * `Record`
    * `Record.render`
-/

------------------------------------------------------------
-- Modes
------------------------------------------------------------

namespace Translit

/- How records are shown. -/
inductive Mode
| verbose
| debug
deriving DecidableEq

/- The diagnostics that were asked for. -/
structure Options where
  verbose : Bool
  debug : Bool
deriving DecidableEq

namespace Options

/- The mode of the diagnostics, if any; debug wins. -/
def mode?
    (options : Options) : Option Mode :=
  if options.debug then some .debug
  else if options.verbose then some .verbose
  else none

end Options

end Translit

------------------------------------------------------------
-- Records
------------------------------------------------------------

namespace Translit

/-
  A line by its number from one, its text without padding,
  what was written for it, and the name of the winning rule.
-/
structure Record where
  number : Nat
  source : Text
  converted : Text
  rule : Text
deriving DecidableEq

namespace Mode

/- The tag that starts a shown record. -/
def tag : Mode → Text
| .verbose => "[VERBOSE]"
| .debug => "[DEBUG]"

end Mode

namespace Record

/- What follows the tag of a shown record. -/
def detail
    (record : Record) : Mode → Text
| .verbose =>
    "Converted: " ++ record.source.trimmed ++ " ➔ " ++
      record.converted.trimmed
| .debug =>
    "Line " ++ Text.decimal record.number ++ ": " ++
      record.source.quoted ++ " -> " ++
      record.converted.quoted

/- A record as the diagnostics show it. -/
def render
    (record : Record)
    (mode : Mode) : Text :=
  mode.tag ++ " " ++ record.detail mode

end Record

end Translit
