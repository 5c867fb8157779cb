import Translit.Command.Files
import Translit.Command.Help
import Translit.Report.Print

/-
  The command line as a program over a host.

  A host is what the program reads from and writes to.  The
  same program runs on the computer at hand and on one that
  is held in memory.  A conversion reads its input, prints
  the report if diagnostics were asked for, writes its output
  and says so; the first step that fails ends it.  A program
  that cannot say how it ended breaks off, and so does one
  whose report cannot be made.

  Key definitions include:
    * `Host`
    * `Failure`
    * `Failure.message`
    * `convertJob`
    * `execute`
-/

------------------------------------------------------------
-- Hosts
------------------------------------------------------------

namespace Translit

namespace Command

/- The two output streams. -/
inductive Channel
| out
| err
deriving DecidableEq

/-
  What the program needs: its standard input, files by their
  written paths, output streams on which texts are printed in
  order, whether a stream shows colours, a clock, and what
  is done when the program breaks off.
-/
structure Host (m : Type → Type) where
  readStdin : m (Except Fault Bytes)
  exists? : String → m Bool
  readFile : String → m (Except Fault Bytes)
  writeFile : String → Text → m (Except Fault Unit)
  print : Channel → Text → m (Except Fault Unit)
  showsColor : Channel → m Bool
  elapsed : m Elapsed
  breakOff : m Unit

end Command

end Translit

------------------------------------------------------------
-- Failures
------------------------------------------------------------

namespace Translit

namespace Command

/- The steps of a conversion that can fail. -/
inductive Failure
| missingInput (path : String)
| read (path : String) (fault : Fault)
| report (fault : Fault)
| write (path : String) (fault : Fault)
deriving DecidableEq

namespace Failure

/- A path between quotes. -/
def quotedPath
    (path : String) : Text :=
  "'" ++ path.toList ++ "'"

/- The line that tells of a failure. -/
def message : Failure → Text
| .missingInput path =>
    "Error: Input file " ++ quotedPath path ++
      " does not exist."
| .read path fault =>
    "Error: failed to read " ++ quotedPath path ++ ": " ++
      fault.message
| .report fault =>
    "Error: failed to print diagnostics: " ++ fault.message
| .write path fault =>
    "Error: failed to write " ++ quotedPath path ++ ": " ++
      fault.message

end Failure

end Command

end Translit

------------------------------------------------------------
-- Exit Codes
------------------------------------------------------------

namespace Translit

namespace Command

/- How the program ends. -/
inductive Exit
| success
| failed
| misused
| broken
deriving DecidableEq

namespace Exit

/-
  The number of an exit.  The last one is for a program that
  has broken off.
-/
def code : Exit → Nat
| .success => 0
| .failed => 1
| .misused => 2
| .broken => 101

end Exit

end Command

end Translit

------------------------------------------------------------
-- Steps of a Conversion
------------------------------------------------------------

namespace Translit

namespace Command

variable {m : Type → Type} [Monad m]

/- Whether a path stands for a standard stream. -/
def isStream
    (path : String) : Bool :=
  path == "-"

/- Read bytes as text. -/
def decode
    (path : String)
    (bytes : Except Fault Bytes) : Except Failure Text :=
  match bytes with
  | .error fault => .error (.read path fault)
  | .ok bytes =>
      match Text.ofUtf8? bytes with
      | some t => .ok t
      | none => .error (.read path .notUtf8)

/- Read the input of a job. -/
def readInput
    (host : Host m)
    (path : String) : m (Except Failure Text) := do
  if isStream path then
    return decode path (← host.readStdin)
  else if ← host.exists? path then
    return decode path (← host.readFile path)
  else
    return .error (.missingInput path)

/- Whether a job colours what it prints on a stream. -/
def usesColor
    (host : Host m)
    (color : Color)
    (channel : Channel) : m Bool :=
  match color with
  | .auto => host.showsColor channel
  | .always => pure true
  | .never => pure false

/- The stream of a job's report: the one its output leaves. -/
def reportChannel
    (job : Job) : Channel :=
  if isStream job.output then .err else .out

/- Print the report of a job, if a mode is selected. -/
def printReport
    (host : Host m)
    (job : Job)
    (details : Details) :
    m (Except (Report.Halt Fault) Unit) := do
  match details.mode with
  | none => return .ok ()
  | some mode =>
      let channel := reportChannel job
      let palette := ⟨← usesColor host job.color channel⟩
      let elapsed ← host.elapsed
      (Report.print (host.print channel) palette details
        elapsed mode).run

/- Write the output of a job. -/
def writeOutput
    (host : Host m)
    (path : String)
    (t : Text) : m (Except Failure Unit) := do
  let result ←
    if isStream path then host.print .out t
    else host.writeFile path t
  match result with
  | .ok () => return .ok ()
  | .error fault => return .error (.write path fault)

/- The stream and the line that tell of success. -/
def successLine
    (path : String) : Channel × Text :=
  let told := "✅ Successfully wrote Python code to "
  if isStream path then
    (.err, told ++ "stdout\n")
  else
    (.out, told ++ path.toList ++ "\n")

/- End the program where it cannot go on. -/
def breakOff
    (host : Host m) : m Exit := do
  host.breakOff
  return .broken

/- Tell how the program ends, which has to succeed. -/
def tell
    (host : Host m)
    (channel : Channel)
    (line : Text)
    (ended : Exit) : m Exit := do
  match ← host.print channel line with
  | .ok () => return ended
  | .error _ => breakOff host

/- Tell of success. -/
def tellSuccess
    (host : Host m)
    (path : String) : m Exit :=
  let (channel, line) := successLine path
  tell host channel line .success

/- Tell of a failure. -/
def tellFailure
    (host : Host m)
    (failure : Failure) : m Exit :=
  tell host .err (failure.message ++ "\n") .failed

end Command

end Translit

------------------------------------------------------------
-- The Program
------------------------------------------------------------

namespace Translit

namespace Command

variable {m : Type → Type} [Monad m]

/- Carry out a conversion. -/
def convertJob
    (host : Host m)
    (job : Job) : m Exit := do
  match ← readInput host job.input with
  | .error failure => tellFailure host failure
  | .ok source =>
      let result := convertWith job.options source
      match ← printReport host job result.details with
      | .error (.refused fault) =>
          tellFailure host (.report fault)
      | .error .broken => breakOff host
      | .ok () =>
          match ← writeOutput host job.output result.text with
          | .error failure => tellFailure host failure
          | .ok () => tellSuccess host job.output

/- Carry out what the arguments ask for. -/
def execute
    (host : Host m)
    (arguments : List String) : m Exit := do
  match Invocation.parse arguments with
  | .convert job => convertJob host job
  | .help topic =>
      let _ ← host.print .out topic.text
      return .success
  | .version =>
      let _ ← host.print .out versionText
      return .success
  | .misuse =>
      let _ ← host.print .err usageText
      return .misused

end Command

end Translit
