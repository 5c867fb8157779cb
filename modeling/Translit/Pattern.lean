import Translit.Text.Blank

/-
  Line patterns and their matches.

  A pattern is a list of steps, each of which takes some
  characters from the front of the text.  A step takes what
  it prefers, and if the steps after it then fail, the next
  best choice.  A run of characters prefers either its
  longest or its shortest form.

  Key definitions include:
    * `CharClass`
    * `Piece`
    * `Piece.take?`
    * `Captures`
    * `Pattern`
    * `Pattern.match?`
-/

------------------------------------------------------------
-- Character Classes
------------------------------------------------------------

namespace Translit

/- The sets of characters that patterns speak of. -/
inductive CharClass
| any
| inLine
| blank
| quote
| digit
| capital
| nameStart
| name
| method
deriving DecidableEq

namespace CharClass

/- ASCII letters in lower case. -/
def isLower
    (c : Char) : Bool :=
  'a' ≤ c && c ≤ 'z'

/- ASCII letters in upper case. -/
def isUpper
    (c : Char) : Bool :=
  'A' ≤ c && c ≤ 'Z'

/- ASCII digits. -/
def isDigit
    (c : Char) : Bool :=
  '0' ≤ c && c ≤ '9'

/- Whether a character belongs to a class. -/
def holds : CharClass → Char → Bool
| .any, _ => true
| .inLine, c => c != '\n'
| .blank, c => isBlank c
| .quote, c => c == '\'' || c == '"'
| .digit, c => isDigit c
| .capital, c => isUpper c || c == '_'
| .nameStart, c => isLower c || isUpper c || c == '_'
| .name, c =>
    isLower c || isUpper c || c == '_' || isDigit c
| .method, c =>
    isLower c || isUpper c || c == '_' || isDigit c ||
      c == '!' || c == '?' || c == '='

end CharClass

end Translit

------------------------------------------------------------
-- Pieces
------------------------------------------------------------

namespace Translit

/- Which length a run of characters prefers. -/
inductive Greed
| longest
| shortest
deriving DecidableEq

/-
  One piece of a pattern: fixed words, of which the first
  that works is preferred, a single character, a run of at
  least so many characters, or the end of the text.
-/
inductive Piece
| words (ws : List Text)
| one (cls : CharClass)
| run (cls : CharClass) (least : Nat) (greed : Greed)
| finish
deriving DecidableEq

namespace Piece

/- One fixed word. -/
def word
    (w : Text) : Piece :=
  .words [w]

/- A character that may be missing. -/
def optional
    (c : Char) : Piece :=
  .words [[c], []]

/- Any number of ASCII blanks. -/
def blanks : Piece :=
  .run .blank 0 .longest

/- At least one ASCII blank. -/
def gap : Piece :=
  .run .blank 1 .longest

/- At least one character up to the end of the line. -/
def restOfLine : Piece :=
  .run .inLine 1 .longest

end Piece

end Translit

------------------------------------------------------------
-- Choices
------------------------------------------------------------

namespace Translit

namespace Piece

variable {α : Type}

/-
  Give characters back until `next` accepts the rest.  The
  characters taken stand in reverse, and at most `spare` of
  them are given back.
-/
def giveBack
    (next : Text → Option α) :
    Nat → Text → Text → Option (Text × α)
| 0, taken, rest =>
    (next rest).map fun a => (taken.reverse, a)
| _ + 1, [], rest =>
    (next rest).map fun a => ([], a)
| spare + 1, c :: taken, rest =>
    match next rest with
    | some a => some ((c :: taken).reverse, a)
    | none => giveBack next spare taken (c :: rest)

/-
  Take characters of a class until `next` accepts the rest.
  The characters taken stand in reverse, and `least` more
  have to be taken.
-/
def takeMore
    (cls : CharClass)
    (next : Text → Option α) :
    Nat → Text → Text → Option (Text × α)
| 0, taken, [] =>
    (next []).map fun a => (taken.reverse, a)
| 0, taken, t@(c :: rest) =>
    match next t with
    | some a => some (taken.reverse, a)
    | none =>
        if cls.holds c then
          takeMore cls next 0 (c :: taken) rest
        else
          none
| _ + 1, _, [] => none
| least + 1, taken, c :: rest =>
    if cls.holds c then
      takeMore cls next least (c :: taken) rest
    else
      none

/-
  Take a piece from the front of a text in the preferred way
  that lets `next` accept the rest.  The result is what was
  taken and what `next` makes of the rest.
-/
def take?
    (next : Text → Option α) :
    Piece → Text → Option (Text × α)
| .words ws, t =>
    ws.findSome? fun w =>
      if w.isPrefixOf t then
        (next (t.drop w.length)).map fun a => (w, a)
      else
        none
| .one cls, t =>
    match t with
    | [] => none
    | c :: rest =>
        if cls.holds c then
          (next rest).map fun a => ([c], a)
        else
          none
| .run cls least .longest, t =>
    let taken := t.takeWhile cls.holds
    if taken.length < least then
      none
    else
      giveBack next (taken.length - least) taken.reverse
        (t.dropWhile cls.holds)
| .run cls least .shortest, t => takeMore cls next least [] t
| .finish, t =>
    if t.isEmpty then
      (next t).map fun a => ([], a)
    else
      none

end Piece

end Translit

------------------------------------------------------------
-- Captures
------------------------------------------------------------

namespace Translit

/- The two parts of a line that a pattern can remember. -/
inductive Slot
| name
| body
deriving DecidableEq

/- What a match remembers. -/
structure Captures where
  name : Text
  body : Text
deriving DecidableEq

namespace Captures

/- Nothing is remembered. -/
def empty : Captures where
  name := []
  body := []

/- Add characters to the front of a slot, if there is one. -/
def keep
    (captures : Captures) :
    Option Slot → Text → Captures
| none, _ => captures
| some .name, t =>
    { captures with name := t ++ captures.name }
| some .body, t =>
    { captures with body := t ++ captures.body }

end Captures

end Translit

------------------------------------------------------------
-- Patterns
------------------------------------------------------------

namespace Translit

/- A piece, and the slot that remembers what it takes. -/
structure Step where
  piece : Piece
  slot : Option Slot
deriving DecidableEq

namespace Step

/- A step whose characters are not remembered. -/
def pass
    (piece : Piece) : Step where
  piece := piece
  slot := none

/- A step whose characters go to a slot. -/
def keep
    (slot : Slot)
    (piece : Piece) : Step where
  piece := piece
  slot := some slot

end Step

/- A pattern is matched from the front of a text. -/
abbrev Pattern :=
  List Step

namespace Pattern

/-
  Match a pattern from the front of a text.  The result holds
  what was captured and the rest of the text.
-/
def match? :
    Pattern → Text → Option (Captures × Text)
| [], t => some (.empty, t)
| step :: steps, t =>
    (step.piece.take? (match? steps) t).map fun found =>
      (found.2.1.keep step.slot found.1, found.2.2)

end Pattern

end Translit
