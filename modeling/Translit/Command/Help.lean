import Translit.Command.Arguments

/-
  The texts that the command line prints about itself.

  Key definitions include:
    * `Topic.text`
    * `versionText`
    * `usageText`
-/

------------------------------------------------------------
-- Help
------------------------------------------------------------

namespace Translit

namespace Command

/- Lines, each with its line feed. -/
def paragraph
    (lines : List String) : Text :=
  lines.flatMap fun line => line.toList ++ ['\n']

/- The options that can stand on both sides of `convert`. -/
def optionHelp : List String :=
  [ "      --verbose        Show each conversion step",
    "      --debug          Show detailed internal debug " ++
      "information (shows internal translation steps)",
    "      --color <COLOR>  Color diagnostics output " ++
      "[default: auto] [possible values: auto, always, never]",
    "  -h, --help           Print help" ]

/- Help on the program. -/
def programHelp : List String :=
  [ "A rule-based, line-by-line Ruby to Python " ++
      "transliterator driven by an ordered, " ++
      "first-match-wins pattern table.",
    "",
    "Usage: rb2py [OPTIONS] <COMMAND>",
    "",
    "Commands:",
    "  convert  Convert a Ruby file (INPUT) into a Python " ++
      "file (OUTPUT)",
    "  help     Print this message or the help of the given " ++
      "subcommand(s)",
    "",
    "Options:" ] ++
  optionHelp ++
  [ "  -V, --version        Print version" ]

/- Help on conversion. -/
def convertHelp : List String :=
  [ "Convert a Ruby file (INPUT) into a Python file (OUTPUT)",
    "",
    "Usage: rb2py convert [OPTIONS] <INPUT> <OUTPUT>",
    "",
    "Arguments:",
    "  <INPUT>   Ruby source file, or `-` for stdin",
    "  <OUTPUT>  Python file to write, or `-` for stdout",
    "",
    "Options:" ] ++
  optionHelp

/- Help on help. -/
def helpHelp : List String :=
  [ "Print this message or the help of the given subcommand(s)",
    "",
    "Usage: rb2py help [COMMAND]...",
    "",
    "Arguments:",
    "  [COMMAND]...  Print help for the subcommand(s)" ]

namespace Topic

/- The help text of a topic. -/
def text : Topic → Text
| .program => paragraph programHelp
| .convert => paragraph convertHelp
| .help => paragraph helpHelp

end Topic

/- The version of the program. -/
def versionText : Text :=
  paragraph ["rb2py 0.1.0"]

/- What is printed for arguments that cannot be read. -/
def usageText : Text :=
  paragraph
    [ "error: the arguments could not be read",
      "",
      "Usage: rb2py [OPTIONS] <COMMAND>",
      "",
      "For more information, try '--help'." ]

end Command

end Translit
