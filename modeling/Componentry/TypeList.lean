import Componentry.Text.Blank
import Componentry.Text.Lines

/-
  Type lists: the types that a typekit defines.

  A type list has a line for each type: its name and, behind
  white space, the flag `1` for an exported type or `0` for a
  private one.  A name without a flag is exported.  Names may
  hold white space, so only a last word `0` or `1` is a flag.
  Blank lines do not count.

  Key definitions:
    * `TypeList`
    * `TypeList.ofEntries`
    * `TypeList.parse`
-/

------------------------------------------------------------
-- Type Lists
------------------------------------------------------------

namespace Componentry

/- All types of a typekit, and the exported ones. -/
structure TypeList where
  all : List String
  exported : List String
deriving DecidableEq, Repr, Inhabited

namespace TypeList

/- The list of named types, each with its flag. -/
def ofEntries (entries : List (String × Bool)) : TypeList where
  all := entries.map (·.1)
  exported := (entries.filter (·.2)).map (·.1)

/- Is a name exported? -/
def isExported
    (list : TypeList)
    (name : String) :
    Bool :=
  list.exported.contains name

/- The names that are defined and not exported. -/
def nonExported (list : TypeList) : List String :=
  list.all.filter fun name => !list.isExported name

end TypeList

end Componentry

------------------------------------------------------------
-- Reading Type Lists
------------------------------------------------------------

namespace Componentry

namespace TypeList

/- The entry on a line without white space at its ends. -/
def readEntry (line : List Char) : List Char × Bool :=
  match Text.cutLast Text.isBlank line with
  | some (name, _, ['1']) => (Text.trimEnd name, true)
  | some (name, _, ['0']) => (Text.trimEnd name, false)
  | _ => (line, true)

/- The entry on a line, none if the line is blank. -/
def entry? (line : List Char) : Option (String × Bool) :=
  match Text.trim line with
  | [] => none
  | line =>
      let (name, exported) := readEntry line
      some (String.ofList name, exported)

/- The entries of a text, in order. -/
def entries (text : String) : List (String × Bool) :=
  (Text.lines text.toList).filterMap entry?

/- The type list that a text holds. -/
def parse (text : String) : TypeList :=
  ofEntries (entries text)

end TypeList

end Componentry
