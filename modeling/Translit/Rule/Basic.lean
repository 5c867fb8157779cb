import Translit.Text.Basic

/-
  The conversion rules and the standard rule table.

  A rule recognises one form of Ruby line.  A table is a list
  of rules in order of priority; it may hold any rules, in
  any order, any number of times.

  Key definitions include:
    * `Rule`
    * `Rule.label`
    * `Table`
    * `Table.standard`
-/

------------------------------------------------------------
-- Rules
------------------------------------------------------------

namespace Translit

/- The forms of Ruby lines that can be recognised. -/
inductive Rule
| require
| comment
| methodHeader
| blockEnd
| ifBranch
| unlessBranch
| elsifBranch
| elseBranch
| beginBlock
| rescueClause
| ensureClause
| fileUtilsCall
| fileCall
| constant
| assignment
| print
| warn
| exit
| manual
deriving DecidableEq

namespace Rule

/- The name of a rule in records, reports and events. -/
def label : Rule → Text
| .require => "require"
| .comment => "comment"
| .methodHeader => "def"
| .blockEnd => "end"
| .ifBranch => "if"
| .unlessBranch => "unless"
| .elsifBranch => "elsif"
| .elseBranch => "else"
| .beginBlock => "begin"
| .rescueClause => "rescue"
| .ensureClause => "ensure"
| .fileUtilsCall => "FileUtils call"
| .fileCall => "File call"
| .constant => "constant assignment"
| .assignment => "assignment"
| .print => "print"
| .warn => "warn"
| .exit => "exit"
| .manual => "manual translation"

end Rule

end Translit

------------------------------------------------------------
-- Tables
------------------------------------------------------------

namespace Translit

/- Rules in order of priority. -/
abbrev Table :=
  List Rule

namespace Table

/-
  The standard table.  Constants come before assignments,
  which have the same form, and the rule that recognises
  every line comes last.
-/
def standard : Table :=
  [ .require, .comment, .methodHeader, .blockEnd, .ifBranch,
    .unlessBranch, .elsifBranch, .elseBranch, .beginBlock,
    .rescueClause, .ensureClause, .fileUtilsCall, .fileCall,
    .constant, .assignment, .print, .warn, .exit, .manual ]

end Table

namespace Rule

/- The rule with a given name. -/
def ofLabel?
    (name : Text) : Option Rule :=
  Table.standard.find? fun rule => rule.label = name

end Rule

end Translit
