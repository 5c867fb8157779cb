import Translit.Text.Basic

/-
  Elapsed times.

  A time is shown in the largest of the units s, ms, µs and
  ns in which it is at least one, with an exact fraction that
  has no trailing zeros.

  Key definitions include:
    * `Elapsed`
    * `Elapsed.render`
-/

------------------------------------------------------------
-- Elapsed Times
------------------------------------------------------------

namespace Translit

/- Whole seconds and the nanoseconds after them. -/
structure Elapsed where
  secs : Nat
  nanos : Nat
  nanos_lt : nanos < 1000000000

namespace Elapsed

/- No time at all. -/
def zero : Elapsed where
  secs := 0
  nanos := 0
  nanos_lt := by decide

/- A number of nanoseconds. -/
def ofNanos
    (n : Nat) : Elapsed where
  secs := n / 1000000000
  nanos := n % 1000000000
  nanos_lt := Nat.mod_lt n (by decide)

/-
  The digits after the point for `part` units of which
  `10 ^ places` make one; nothing if there are none.
-/
def fraction
    (places part : Nat) : Text :=
  let digits := Text.decimal part
  let padded :=
    List.replicate (places - digits.length) '0' ++ digits
  let shown :=
    (padded.reverse.dropWhile (· == '0')).reverse
  if shown.isEmpty then [] else '.' :: shown

/- A time in the largest unit that is not above it. -/
def render
    (elapsed : Elapsed) : Text :=
  let n := elapsed.nanos
  if elapsed.secs > 0 then
    Text.decimal elapsed.secs ++ fraction 9 n ++ "s"
  else if n ≥ 1000000 then
    Text.decimal (n / 1000000) ++
      fraction 6 (n % 1000000) ++ "ms"
  else if n ≥ 1000 then
    Text.decimal (n / 1000) ++
      fraction 3 (n % 1000) ++ "µs"
  else
    Text.decimal n ++ "ns"

end Elapsed

end Translit
