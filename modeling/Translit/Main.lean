import Translit.Command.Convert

/-
  The command line on the computer at hand.

  All decisions are made in `Command.execute`; this module
  gives it a host that reads and writes for real.

  Key definitions include:
    * `Command.realHost`
    * `main`
-/

------------------------------------------------------------
-- Faults
------------------------------------------------------------

namespace Translit

namespace Command

/- The fault behind an error of the system. -/
def faultOf : IO.Error → Fault
| .alreadyExists _ code why => fault code why
| .otherError code why => fault code why
| .resourceBusy code why => fault code why
| .resourceVanished code why => fault code why
| .unsupportedOperation code why => fault code why
| .hardwareFault code why => fault code why
| .unsatisfiedConstraints code why => fault code why
| .illegalOperation code why => fault code why
| .protocolError code why => fault code why
| .timeExpired code why => fault code why
| .interrupted _ code why => fault code why
| .noFileOrDirectory _ code why => fault code why
| .invalidArgument _ code why => fault code why
| .permissionDenied _ code why => fault code why
| .resourceExhausted _ code why => fault code why
| .inappropriateType _ code why => fault code why
| .noSuchThing _ code why => fault code why
| .unexpectedEof => .system 0 "unexpected end of file"
| .userError why => .system 0 why.toList
where
  fault (code : UInt32) (why : String) : Fault :=
    match code.toNat with
    | 2 => .notFound
    | 20 => .notDirectory
    | 21 => .isDirectory
    | 28 => .noSpace
    | 36 => .nameTooLong
    | n => .system n why.toList

/- Turn errors of an action into faults. -/
def attempt
    {α : Type}
    (action : IO α) : BaseIO (Except Fault α) := do
  match ← EIO.toBaseIO action with
  | .ok a => return .ok a
  | .error e => return .error (faultOf e)

end Command

end Translit

------------------------------------------------------------
-- The Real Host
------------------------------------------------------------

namespace Translit

namespace Command

/- The stream behind a channel. -/
def stream : Channel → BaseIO IO.FS.Stream
| .out => IO.getStdout
| .err => IO.getStderr

/- Print a text and push it out. -/
def printText
    (channel : Channel)
    (t : Text) : IO Unit := do
  let target ← stream channel
  target.putStr (String.ofList t)
  target.flush

/- A path can be opened, or fails only after it was found. -/
def canFind
    (path : String) : BaseIO Bool := do
  match ← attempt (IO.FS.Handle.mk path .read) with
  | .ok _ => return true
  | .error .notFound => return false
  | .error .notDirectory => return false
  | .error .nameTooLong => return false
  | .error _ => return true

/- The host of a program that was started at a given time. -/
def realHost
    (start : Nat) : Host BaseIO where
  readStdin := attempt do
    return (← (← IO.getStdin).readBinToEnd).toList
  exists? := canFind
  readFile := fun path => attempt do
    return (← IO.FS.readBinFile path).toList
  writeFile := fun path t => attempt do
    let target ← IO.FS.Handle.mk path .write
    target.putStr (String.ofList t)
    target.flush
  print := fun channel t =>
    attempt (printText channel t)
  showsColor := fun channel => do
    let plain := (← IO.getEnv "NO_COLOR").isSome
    return (← (← stream channel).isTty) && !plain
  elapsed := do
    return Elapsed.ofNanos ((← IO.monoNanosNow) - start)
  breakOff := pure ()

end Command

end Translit

------------------------------------------------------------
-- Entry Point
------------------------------------------------------------

namespace Translit

namespace Command

/- Run the program on the computer at hand. -/
def executeReal
    (arguments : List String) : BaseIO Exit := do
  let start ← IO.monoNanosNow
  execute (realHost start) arguments

end Command

end Translit

/- Run the program and end with its exit code. -/
def main
    (arguments : List String) : IO UInt32 := do
  let ended ← Translit.Command.executeReal arguments
  return ended.code.toUInt32
