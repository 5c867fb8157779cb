import Translit.Pattern

/-
  String interpolation.

  A marker is `#` and a pair of braces around at least one
  character of the same line.  It ends at the first closing
  brace after its first inner character.  An expression with
  a marker becomes a formatted string: each marker loses its
  `#`, all double quotes are dropped, and the result stands
  in new quotes after an `f`.  An expression without a marker
  stays as it is.

  Key definitions include:
    * `Interpolation.marker`
    * `Interpolation.hasMarker`
    * `Interpolation.openMarkers`
    * `Interpolation.convert`
-/

------------------------------------------------------------
-- Markers
------------------------------------------------------------

namespace Translit

namespace Interpolation

/- The pattern of one marker; the body is its inner part. -/
def marker : Pattern :=
  [ .pass (.word "#\x7b"),
    .keep .body (.run .inLine 1 .shortest),
    .pass (.word "\x7d") ]

/- The inner part of a marker at the front of a text. -/
def inner?
    (t : Text) : Option Text :=
  (marker.match? t).map fun found => found.1.body

/- Whether a marker starts anywhere in a text. -/
def hasMarker : Text → Bool
| [] => false
| c :: rest => (inner? (c :: rest)).isSome || hasMarker rest

end Interpolation

end Translit

------------------------------------------------------------
-- Formatted Strings
------------------------------------------------------------

namespace Translit

namespace Interpolation

/-
  Drop the `#` of every marker, after passing over the first
  `skip` characters.  A marker is longer than its inner part
  by three characters, the first of which is consumed here.
-/
def openFrom : Nat → Text → Text
| _, [] => []
| skip + 1, _ :: rest => openFrom skip rest
| 0, c :: rest =>
    match inner? (c :: rest) with
    | some inner =>
        '\x7b' :: inner ++
          '\x7d' :: openFrom (inner.length + 2) rest
    | none => c :: openFrom 0 rest

/-
  Drop the `#` of every marker, from left to right; a marker
  inside a marker is not looked at.
-/
def openMarkers
    (t : Text) : Text :=
  openFrom 0 t

/- Turn an expression with markers into a formatted string. -/
def convert
    (t : Text) : Text :=
  if hasMarker t then
    "f\"" ++ (openMarkers t).filter (· != '"') ++ "\""
  else
    t

end Interpolation

end Translit
