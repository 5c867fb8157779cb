import Translit.Command.Convert
import Translit.Report.Sink

/-
  A host that is held in memory.

  The world of a program is the files it sees, the bytes of
  its standard input, what has been printed on its two output
  streams and which of them show colours, and what is printed
  when the program breaks off.

  Key definitions include:
    * `World`
    * `World.outlet`
    * `World.host`
    * `World.execute`
-/

------------------------------------------------------------
-- Worlds
------------------------------------------------------------

namespace Translit

namespace Command

/- All that a program can read or change. -/
structure World where
  files : FileSystem
  stdin : Bytes
  stdout : Sink
  stderr : Sink
  colored : List Channel
  lastWords : Text
deriving DecidableEq

namespace World

/- The stream of a channel. -/
def sink
    (world : World) : Channel → Sink
| .out => world.stdout
| .err => world.stderr

/- Put another stream in place of that of a channel. -/
def withSink
    (world : World)
    (channel : Channel)
    (sink : Sink) : World :=
  match channel with
  | .out => { world with stdout := sink }
  | .err => { world with stderr := sink }

/- The way to the stream of a channel. -/
def outlet
    (channel : Channel) : Outlet World where
  sink := fun world => world.sink channel
  refill := fun world sink => world.withSink channel sink
  sink_refill := by
    cases channel <;> exact fun _ _ => rfl
  refill_sink := by
    cases channel <;> exact fun _ => rfl
  refill_refill := by
    cases channel <;> exact fun _ _ _ => rfl

/- Print a text on the stream of a channel. -/
def print
    (channel : Channel)
    (t : Text) :
    StateM World (Except Fault Unit) :=
  (outlet channel).write .noSpace t

/- Write a file of a world. -/
def writeFile
    (path : String)
    (t : Text) :
    StateM World (Except Fault Unit) :=
  fun world =>
    match world.files.write path.toList t.utf8 with
    | .ok files => (.ok (), { world with files := files })
    | .error fault => (.error fault, world)

/- Programs read and change a world. -/
def host
    (elapsed : Elapsed) : Host (StateM World) where
  readStdin := fun world => (.ok world.stdin, world)
  exists? := fun path world =>
    (world.files.exists? path.toList, world)
  readFile := fun path world =>
    (world.files.read path.toList, world)
  writeFile := writeFile
  print := print
  showsColor := fun channel world =>
    (world.colored.contains channel, world)
  elapsed := pure elapsed
  breakOff := fun world =>
    ((), (print .err world.lastWords world).2)

/- Run the program in a world. -/
def execute
    (world : World)
    (elapsed : Elapsed)
    (arguments : List String) : Exit × World :=
  Command.execute (host elapsed) arguments world

end World

end Command

end Translit
