/-
  Styled text for terminals.

  A style is a list of codes.  Styled text is framed by escape
  sequences, also if it is empty.  Where the text itself ends
  a style, the style is taken up again.

  Key definitions:
    * `CommandLine.Style`
    * `CommandLine.Style.paint`
-/

------------------------------------------------------------
-- Styles
------------------------------------------------------------

namespace Componentry

namespace CommandLine

/- How a text is shown on a terminal. -/
structure Style where
  codes : List Nat

namespace Style

def green : Style := ⟨[32]⟩
def red : Style := ⟨[31]⟩
def yellow : Style := ⟨[33]⟩
def cyan : Style := ⟨[36]⟩
def bold : Style := ⟨[1]⟩
def dimmed : Style := ⟨[2]⟩
def boldGreen : Style := ⟨[1, 32]⟩

end Style

end CommandLine

end Componentry

------------------------------------------------------------
-- Painting
------------------------------------------------------------

namespace Componentry

namespace CommandLine

namespace Style

/- The escape sequence of some codes. -/
def sequence (codes : List Nat) : List Char :=
  ("\x1b[" ++ ";".intercalate (codes.map toString) ++ "m").toList

/- The escape sequence that ends all styles. -/
def reset : List Char := sequence [0]

/- Take a style up again wherever a text ends it. -/
def resume
    (start : List Char) :
    List Char → List Char
  | [] => []
  | '\x1b' :: '[' :: '0' :: 'm' :: rest =>
      reset ++ start ++ resume start rest
  | c :: rest => c :: resume start rest

/- Show a text in a style, if colours are wanted. -/
def paint
    (style : Style)
    (colored : Bool)
    (text : String) :
    String :=
  if colored then
    let start := sequence style.codes
    String.ofList (start ++ resume start text.toList ++ reset)
  else text

end Style

end CommandLine

end Componentry
