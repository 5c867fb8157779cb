import Translit.Pattern
import Translit.Rule.Basic

/-
  The pattern of each rule.

  All patterns but the catch-all start with any indentation.
  A pattern need not reach the end of the line unless it ends
  with `Piece.finish`.

  Key definitions include:
    * `Form.keyword`
    * `Form.clause`
    * `Rule.form`
-/

------------------------------------------------------------
-- Common Forms
------------------------------------------------------------

namespace Translit

namespace Form

/- A keyword after any indentation. -/
def keyword
    (w : Text) : Pattern :=
  [ .pass .blanks, .pass (.word w) ]

/- A keyword that stands alone on its line. -/
def lone
    (w : Text) : Pattern :=
  keyword w ++ [ .pass .blanks, .pass .finish ]

/- One of some keywords and its argument, after a gap. -/
def clause
    (ws : List Text) : Pattern :=
  [ .pass .blanks, .pass (.words ws), .pass .gap,
    .keep .body .restOfLine ]

/- A call on a fixed receiver. -/
def call
    (receiver : Text) : Pattern :=
  keyword (receiver ++ ".") ++ [ .keep .body .restOfLine ]

/- A name of the given steps that takes a value. -/
def assign
    (name : List Piece) : Pattern :=
  .pass .blanks :: name.map (.keep .name) ++
    [ .pass .blanks, .pass (.word "="), .pass .blanks,
      .keep .body .restOfLine ]

end Form

end Translit

------------------------------------------------------------
-- Forms of the Rules
------------------------------------------------------------

namespace Translit

namespace Rule

/- The pattern that a line must match for a rule to apply. -/
def form : Rule → Pattern
| .require =>
    Form.keyword "require" ++
      [ .pass .gap, .pass (.one .quote),
        .keep .body (.run .inLine 1 .shortest),
        .pass (.one .quote) ]
| .comment => Form.keyword "#"
| .methodHeader =>
    Form.keyword "def" ++
      [ .pass .gap, .keep .name (.run .method 1 .longest) ]
| .blockEnd => Form.lone "end"
| .ifBranch => Form.clause ["if"]
| .unlessBranch => Form.clause ["unless"]
| .elsifBranch => Form.clause ["elsif"]
| .elseBranch => Form.lone "else"
| .beginBlock => Form.lone "begin"
| .rescueClause =>
    Form.keyword "rescue" ++
      [ .pass .blanks, .keep .name (.run .name 0 .longest) ]
| .ensureClause => Form.lone "ensure"
| .fileUtilsCall => Form.call "FileUtils"
| .fileCall => Form.call "File"
| .constant => Form.assign [.run .capital 1 .longest]
| .assignment =>
    Form.assign [.one .nameStart, .run .name 0 .longest]
| .print => Form.clause ["puts", "print"]
| .warn => Form.clause ["warn"]
| .exit =>
    Form.keyword "exit" ++
      [ .pass (.optional '('),
        .keep .body (.run .digit 0 .longest),
        .pass (.optional ')') ]
| .manual => [ .pass (.run .any 0 .longest), .pass .finish ]

end Rule

end Translit
