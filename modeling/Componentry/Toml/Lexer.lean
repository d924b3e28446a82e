import Componentry.Json.Lexer

/-
  Cutting the text of a configuration file into tokens.

  The lexer is a machine that takes one character at a time.
  Single spaces, tabs and line ends are tokens of their own,
  since it depends on the place whether they are admitted.
  Comments leave no token.  A run of the characters that keys
  without quotes, numbers and dates are made of is one word;
  a dot is not part of it.

  Key definitions:
    * `Toml.Token`
    * `Toml.Style`, `Toml.Mode`, `Toml.Mode.step`
    * `Toml.lex`
-/

------------------------------------------------------------
-- Tokens
------------------------------------------------------------

namespace Componentry

namespace Toml

/- A token of a configuration file. -/
inductive Token where
  | mark (c : Char)
  | word (read : List Char)
  -- A text in single or in triple quotes.
  | quoted (long : Bool) (content : String)
deriving DecidableEq, Repr

/- The characters that are tokens by themselves. -/
def isMark (c : Char) : Bool :=
  "[]\x7b\x7d,.= \t\n".toList.contains c

/- The characters of keys that need no quotes. -/
def isKeyChar (c : Char) : Bool :=
  c.isAlphanum || c == '_' || c == '-'

/- The characters of words. -/
def isWordPart (c : Char) : Bool :=
  isKeyChar c || c == '+' || c == ':'

/- The characters that are admitted nowhere. -/
def isControl (c : Char) : Bool :=
  c.toNat < 0x20 && c != '\t' || c.toNat = 0x7f

end Toml

end Componentry

------------------------------------------------------------
-- The Machine
------------------------------------------------------------

namespace Componentry

namespace Toml

/- How a text is quoted. -/
structure Style where
  quote : Char
  long : Bool

/-
  Where the lexer stands.  What has been read of a word or of
  a text is kept with the last character first.
-/
inductive Mode where
  -- Between two tokens.
  | between
  -- After a carriage return that a line feed has to follow.
  | carriage
  | comment
  | word (read : List Char)
  -- After one quote, or two, that may open a text.
  | opening (quote : Char) (second : Bool)
  -- After three quotes: a line end here does not count.
  | fresh (style : Style)
  -- After a carriage return there.
  | freshCarriage (style : Style)
  | text (style : Style) (read : List Char)
  -- After a carriage return in a text.
  | textCarriage (style : Style) (read : List Char)
  -- After some quotes that may close a text.
  | closing (style : Style) (read : List Char) (count : Nat)
  -- After the backslash of an escape.
  | escape (style : Style) (read : List Char)
  -- In the digits of an escape, some of them still missing.
  | code (style : Style) (read : List Char)
      (missing : Nat) (value : Nat)
  -- After a backslash that a line end has to follow.
  | lineEnd (style : Style) (read : List Char)
  -- Behind it: white space does not count.
  | skipping (style : Style) (read : List Char)
  -- After a carriage return at one of the last two places.
  | skipCarriage (style : Style) (read : List Char)

/- The token of a text that has been read. -/
def Style.token
    (style : Style)
    (read : List Char) :
    Token :=
  .quoted style.long (String.ofList read.reverse)

/- A character between two tokens. -/
def start (c : Char) : Option (Mode × List Token) :=
  if isMark c then some (.between, [.mark c])
  else if isWordPart c then some (.word [c], [])
  else if c == '"' || c == '\'' then
    some (.opening c false, [])
  else if c == '#' then some (.comment, [])
  else if c == '\r' then some (.carriage, [])
  else none

/- A character between two tokens, behind some tokens. -/
def startAfter
    (tokens : List Token)
    (c : Char) :
    Option (Mode × List Token) :=
  (start c).map fun (mode, more) => (mode, tokens ++ more)

/- A character of a text. -/
def inText
    (style : Style)
    (read : List Char)
    (c : Char) :
    Option (Mode × List Token) :=
  if c == style.quote then
    if style.long then some (.closing style read 1, [])
    else some (.between, [style.token read])
  else if c == '\\' && style.quote == '"' then
    some (.escape style read, [])
  else if c == '\n' && style.long then
    some (.text style (c :: read), [])
  else if c == '\r' && style.long then
    some (.textCarriage style read, [])
  else if isControl c then none
  else some (.text style (c :: read), [])

/- The character of a short escape. -/
def escaped? : Char → Option Char
  | 'b' => some '\x08'
  | 't' => some '\t'
  | 'n' => some '\n'
  | 'f' => some '\x0c'
  | 'r' => some '\r'
  | '"' => some '"'
  | '\\' => some '\\'
  | _ => none

/- A character where a line has to end. -/
def inLineEnd
    (style : Style)
    (read : List Char)
    (c : Char) :
    Option (Mode × List Token) :=
  if c == '\n' then some (.skipping style read, [])
  else if c == '\r' then some (.skipCarriage style read, [])
  else if c == ' ' || c == '\t' then
    some (.lineEnd style read, [])
  else none

/- The character behind the backslash of an escape. -/
def inEscape
    (style : Style)
    (read : List Char)
    (c : Char) :
    Option (Mode × List Token) :=
  if c == 'u' then some (.code style read 4 0, [])
  else if c == 'U' then some (.code style read 8 0, [])
  else
    match escaped? c with
    | some d => some (.text style (d :: read), [])
    | none =>
        if !style.long then none
        else inLineEnd style read c

/- A digit of an escape; surrogates stand for nothing. -/
def inCode
    (style : Style)
    (read : List Char)
    (missing : Nat)
    (value : Nat)
    (c : Char) :
    Option Mode := do
  let digit ← Json.hexValue? c
  let value := value * 16 + digit
  if missing > 1 then some (.code style read (missing - 1) value)
  else if value.isValidChar then
    some (.text style (Char.ofNat value :: read))
  else none

/-
  A character behind quotes in a long text.  Up to two quotes
  may stand before the three that close it.
-/
def inClosing
    (style : Style)
    (read : List Char)
    (count : Nat)
    (c : Char) :
    Option (Mode × List Token) :=
  if c == style.quote && count < 5 then
    some (.closing style read (count + 1), [])
  else if count < 3 then
    inText style (List.replicate count style.quote ++ read) c
  else
    startAfter
      [style.token
        (List.replicate (count - 3) style.quote ++ read)]
      c

/- Take one character; tokens that end with it come out. -/
def Mode.step
    (mode : Mode)
    (c : Char) :
    Option (Mode × List Token) :=
  match mode with
  | .between => start c
  | .carriage =>
      if c == '\n' then some (.between, [.mark '\n']) else none
  | .comment =>
      if c == '\n' || c == '\r' then start c
      else if isControl c then none
      else some (.comment, [])
  | .word read =>
      if isWordPart c then some (.word (c :: read), [])
      else startAfter [.word read.reverse] c
  | .opening quote false =>
      if c == quote then some (.opening quote true, [])
      else inText ⟨quote, false⟩ [] c
  | .opening quote true =>
      if c == quote then some (.fresh ⟨quote, true⟩, [])
      else startAfter [.quoted false ""] c
  | .fresh style =>
      if c == '\n' then some (.text style [], [])
      else if c == '\r' then some (.freshCarriage style, [])
      else inText style [] c
  | .freshCarriage style =>
      if c == '\n' then some (.text style [], []) else none
  | .text style read => inText style read c
  | .textCarriage style read =>
      if c == '\n' then some (.text style (c :: read), [])
      else none
  | .closing style read count => inClosing style read count c
  | .escape style read => inEscape style read c
  | .code style read missing value =>
      (inCode style read missing value c).map
        fun mode => (mode, [])
  | .lineEnd style read => inLineEnd style read c
  | .skipping style read =>
      if c == ' ' || c == '\t' || c == '\n' then
        some (.skipping style read, [])
      else if c == '\r' then some (.skipCarriage style read, [])
      else inText style read c
  | .skipCarriage style read =>
      if c == '\n' then some (.skipping style read, []) else none

/- What is still to come out at the end of the file. -/
def Mode.finish : Mode → Option (List Token)
  | .between => some []
  | .comment => some []
  | .word read => some [.word read.reverse]
  | .opening _ true => some [.quoted false ""]
  | .closing style read count =>
      if count < 3 then none
      else
        some
          [style.token
            (List.replicate (count - 3) style.quote ++ read)]
  | _ => none

end Toml

end Componentry

------------------------------------------------------------
-- Texts
------------------------------------------------------------

namespace Componentry

namespace Toml

/- The tokens of a text, the lexer standing in a mode. -/
def lexFrom
    (mode : Mode) :
    List Char → Option (List Token)
  | [] => mode.finish
  | c :: cs =>
      match mode.step c with
      | none => none
      | some (next, tokens) =>
          (lexFrom next cs).map (tokens ++ ·)

/- The tokens of a text; a byte order mark may precede it. -/
def lex : List Char → Option (List Token)
  | [] => some []
  | c :: cs =>
      if c == '\ufeff' then lexFrom .between cs
      else lexFrom .between (c :: cs)

end Toml

end Componentry
