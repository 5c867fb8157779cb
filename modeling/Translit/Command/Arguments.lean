import Translit.Record

/-
  Command-line arguments.

  Options may stand before the word `convert`, after it and
  between its two paths.  On one side of that word an option
  may be given once; what is given after it wins.  Arguments
  are read from left to right, and the first help option,
  version option or mistake decides.

  Key definitions include:
    * `Job`
    * `Invocation`
    * `Argument`
    * `Argument.read`
    * `Invocation.parse`
-/

------------------------------------------------------------
-- Invocations
------------------------------------------------------------

namespace Translit

namespace Command

/- When diagnostics are coloured. -/
inductive Color
| auto
| always
| never
deriving DecidableEq

/- A conversion that was asked for. -/
structure Job where
  input : String
  output : String
  options : Options
  color : Color
deriving DecidableEq

/- What help is about. -/
inductive Topic
| program
| convert
| help
deriving DecidableEq

/- What the arguments ask for. -/
inductive Invocation
| convert (job : Job)
| help (topic : Topic)
| version
| misuse
deriving DecidableEq

end Command

end Translit

------------------------------------------------------------
-- Single Arguments
------------------------------------------------------------

namespace Translit

namespace Command

/- The kinds of a single argument. -/
inductive Argument
| verbose
| debug
| color
| colorValue (value : String)
| help
| version
| separator
| unknown
| word (w : String)
deriving DecidableEq

namespace Argument

/- Options of two hyphens, with what follows an `=`. -/
def readLong
    (name : Text)
    (value : Option Text) : Argument :=
  match String.ofList name, value with
  | "verbose", none => .verbose
  | "debug", none => .debug
  | "help", none => .help
  | "version", none => .version
  | "color", none => .color
  | "color", some v => .colorValue (String.ofList v)
  | _, _ => .unknown

/-
  The kind of an argument.  After one hyphen only the first
  letter counts, because the options with letters act at
  once.  A hyphen alone is a word.
-/
def read
    (argument : String) : Argument :=
  match argument.toList with
  | ['-', '-'] => .separator
  | '-' :: '-' :: long =>
      let name := long.takeWhile (· != '=')
      match long.dropWhile (· != '=') with
      | [] => readLong name none
      | _ :: value => readLong name (some value)
  | '-' :: 'h' :: _ => .help
  | '-' :: 'V' :: _ => .version
  | '-' :: _ :: _ => .unknown
  | _ => .word argument

end Argument

end Command

end Translit

------------------------------------------------------------
-- Settings
------------------------------------------------------------

namespace Translit

namespace Command

namespace Color

/- The values of the colour option. -/
def ofWord? : String → Option Color
| "auto" => some .auto
| "always" => some .always
| "never" => some .never
| _ => none

end Color

/- The options given on one side of `convert`. -/
structure Settings where
  verbose : Bool
  debug : Bool
  color : Option Color
deriving DecidableEq

namespace Settings

/- No options are given. -/
def empty : Settings where
  verbose := false
  debug := false
  color := none

/- Give the verbose option, unless it was given before. -/
def setVerbose?
    (settings : Settings) : Option Settings :=
  if settings.verbose then none
  else some { settings with verbose := true }

/- Give the debug option, unless it was given before. -/
def setDebug?
    (settings : Settings) : Option Settings :=
  if settings.debug then none
  else some { settings with debug := true }

/- Give the colour option a value, unless it has one. -/
def setColor?
    (settings : Settings)
    (value : String) : Option Settings :=
  if settings.color.isSome then none
  else
    (Color.ofWord? value).map fun color =>
      { settings with color := some color }

/- Give an option that stands in one argument. -/
def give?
    (settings : Settings) :
    Argument → Option Settings
| .verbose => settings.setVerbose?
| .debug => settings.setDebug?
| .colorValue value => settings.setColor? value
| _ => none

/- The job of both sides together. -/
def job
    (before after : Settings)
    (input output : String) : Job where
  input := input
  output := output
  options :=
    { verbose := before.verbose || after.verbose
      debug := before.debug || after.debug }
  color := (after.color.or before.color).getD .auto

end Settings

end Command

end Translit

------------------------------------------------------------
-- Arguments after `convert`
------------------------------------------------------------

namespace Translit

namespace Command

/- What the arguments after `convert` ask for. -/
inductive Request
| paths (settings : Settings) (input output : String)
| help
| misuse
deriving DecidableEq

namespace Request

/- Take a path, unless it is empty or there are two. -/
def addPath?
    (paths : List String)
    (path : String) : Option (List String) :=
  if path.isEmpty || paths.length ≥ 2 then none
  else some (paths ++ [path])

/- The request when all arguments are read. -/
def finish
    (settings : Settings) :
    List String → Request
| [input, output] => .paths settings input output
| _ => .misuse

/- Read arguments after a separator: all of them are paths. -/
def parsePaths
    (settings : Settings)
    (paths : List String) :
    List String → Request
| [] => finish settings paths
| a :: rest =>
    match addPath? paths a with
    | some more => parsePaths settings more rest
    | none => .misuse

/- Read the arguments after `convert`. -/
def parse
    (settings : Settings)
    (paths : List String) :
    List String → Request
| [] => finish settings paths
| a :: rest =>
    match Argument.read a with
    | .help => .help
    | .separator => parsePaths settings paths rest
    | .color =>
        match rest with
        | [] => .misuse
        | v :: rest =>
            match Argument.read v with
            | .word value =>
                match settings.setColor? value with
                | some next => parse next paths rest
                | none => .misuse
            | _ => .misuse
    | .word path =>
        match addPath? paths path with
        | some more => parse settings more rest
        | none => .misuse
    | option =>
        match settings.give? option with
        | some next => parse next paths rest
        | none => .misuse

end Request

end Command

end Translit

------------------------------------------------------------
-- All Arguments
------------------------------------------------------------

namespace Translit

namespace Command

namespace Invocation

/- The arguments after the word `help`. -/
def parseHelp : List String → Invocation
| [] => .help .program
| ["convert"] => .help .convert
| ["help"] => .help .help
| _ => .misuse

/- The arguments after the word `convert`. -/
def parseConvert
    (before : Settings)
    (rest : List String) : Invocation :=
  match Request.parse .empty [] rest with
  | .paths after input output =>
      .convert (before.job after input output)
  | .help => .help .convert
  | .misuse => .misuse

/-
  The arguments after a colour that is refused.  A word that
  follows directly is read before the colour is looked at,
  so that help can still be asked for.
-/
def parseRefused : List String → Invocation
| "convert" :: rest =>
    match Request.parse .empty [] rest with
    | .help => .help .convert
    | _ => .misuse
| "help" :: rest => parseHelp rest
| _ => .misuse

/- Read the arguments, with some options given already. -/
def parseFrom
    (settings : Settings) :
    List String → Invocation
| [] => .misuse
| a :: rest =>
    match Argument.read a with
    | .help => .help .program
    | .version => .version
    | .color =>
        match rest with
        | [] => .misuse
        | v :: rest =>
            match Argument.read v with
            | .word value =>
                match settings.setColor? value with
                | some next => parseFrom next rest
                | none => parseRefused rest
            | _ => .misuse
    | .word w =>
        if w = "convert" then parseConvert settings rest
        else if w = "help" then parseHelp rest
        else .misuse
    | option =>
        match settings.give? option with
        | some next => parseFrom next rest
        | none => .misuse

/- What the arguments ask for. -/
def parse
    (arguments : List String) : Invocation :=
  parseFrom .empty arguments

end Invocation

end Command

end Translit
