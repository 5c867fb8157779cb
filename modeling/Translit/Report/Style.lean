import Translit.Text.Basic

/-
  Styled text.

  A report is made of spans, some of which have a style.  A
  palette that is on wraps a styled span in terminal colour
  codes; one that is off leaves its text alone.

  Key definitions include:
    * `Style`
    * `Palette.paint`
    * `Span`
    * `Span.render`
-/

------------------------------------------------------------
-- Styles
------------------------------------------------------------

namespace Translit

/- What a styled span stands for. -/
inductive Style
| debugTag
| verboseTag
| heading
| caption
| lineCount
| manual
| allConverted
| gating
| ruleName
| hitCount
| elapsed
deriving DecidableEq

namespace Style

/- The number of the terminal colour of a style. -/
def code : Style → Text
| .debugTag => "33"
| .verboseTag => "34"
| .heading => "90"
| .caption => "2"
| .lineCount => "1"
| .manual => "33"
| .allConverted => "32"
| .gating => "36"
| .ruleName => "34"
| .hitCount => "33"
| .elapsed => "32"

end Style

end Translit

------------------------------------------------------------
-- Palettes
------------------------------------------------------------

namespace Translit

/- Whether styles are shown. -/
structure Palette where
  enabled : Bool
deriving DecidableEq

/- The terminal sequence that selects a graphic rendition. -/
def renditionCode
    (code : Text) : Text :=
  "\x1b[" ++ code ++ "m"

namespace Palette

/- Show a text in a style, if styles are shown. -/
def paint
    (palette : Palette)
    (style : Style)
    (t : Text) : Text :=
  if palette.enabled then
    renditionCode style.code ++ t ++ renditionCode "0"
  else
    t

end Palette

end Translit

------------------------------------------------------------
-- Spans
------------------------------------------------------------

namespace Translit

/- A part of a line of a report. -/
inductive Span
| plain (t : Text)
| styled (style : Style) (t : Text)
deriving DecidableEq

namespace Span

/- The text of a span under a palette. -/
def render
    (palette : Palette) : Span → Text
| .plain t => t
| .styled style t => palette.paint style t

end Span

end Translit
