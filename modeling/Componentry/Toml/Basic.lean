/-
  Documents of configuration files, in the notation of TOML.

  A document is a table of values.  A table remembers how it
  came to be, since that decides who may still add to it: a
  table of a header is complete once the next header comes, a
  table that a dotted key has opened takes further dotted keys
  only, a table that merely lies on the way to another one may
  get a header of its own, and a table in braces is closed.

  Key definitions:
    * `Toml`, `Toml.Origin`, `Toml.Entries`
    * `Toml.field?`, `Toml.text?`, `Toml.items?`
    * `Toml.descend`
    * `Toml.addValue`, `Toml.openTable`, `Toml.openItem`
-/

------------------------------------------------------------
-- Documents
------------------------------------------------------------

namespace Componentry

/- How a table came to be. -/
inductive Toml.Origin where
  -- It lies on the way to the table of a header.
  | passed
  -- A dotted key opened it.
  | dotted
  -- It is the whole document, or a header opened it.
  | header
  -- It is written in braces.
  | closed
deriving DecidableEq, Repr

/-
  A value of a document.  Numbers that are not whole, dates
  and times keep the text they are written with.
-/
inductive Toml where
  | text (content : String)
  | integer (value : Int)
  | float (digits : String)
  | boolean (value : Bool)
  | moment (written : String)
  | array (items : List Toml)
  | table (origin : Toml.Origin) (entries : List (String × Toml))
  -- The tables of headers in double brackets, the last first.
  | tables (items : List (List (String × Toml)))
deriving Inhabited

/- The named values of a table, in the order they came. -/
abbrev Toml.Entries := List (String × Toml)

end Componentry

------------------------------------------------------------
-- Reading Values
------------------------------------------------------------

namespace Componentry

namespace Toml

/- A named value of a table. -/
def field?
    (entries : Entries)
    (name : String) :
    Option Toml :=
  entries.lookup name

/- The content of a text. -/
def text? : Toml → Option String
  | .text content => some content
  | _ => none

/- The items of an array. -/
def items? : Toml → Option (List Toml)
  | .array items => some items
  | .tables items =>
      some (items.reverse.map (.table .header))
  | _ => none

end Toml

end Componentry

------------------------------------------------------------
-- Building Documents
------------------------------------------------------------

namespace Componentry

namespace Toml

/- Replace the value of a name that is there. -/
def replace
    (name : String)
    (value : Toml) :
    Entries → Entries
  | [] => []
  | (other, old) :: rest =>
      if other = name then (name, value) :: rest
      else (other, old) :: replace name value rest

/-
  Change the table that a path leads to.  Tables that are
  missing on the way are made, and marked as `made`.  The last
  of the tables of headers in double brackets stands for them
  all.  Dotted keys do not lead into the table of a header.
-/
def descend
    (made : Origin)
    (change : Origin → Entries → Option Entries) :
    List String → Origin → Entries → Option Entries
  | [], here, entries => change here entries
  | name :: path, _, entries =>
      match field? entries name with
      | none => do
          let inner ← descend made change path made []
          some (entries ++ [(name, .table made inner)])
      | some (.table origin inner) =>
          if origin = .closed then none
          else if made = .dotted && origin = .header then none
          else do
            let inner ← descend made change path origin inner
            some (replace name (.table origin inner) entries)
      | some (.tables (last :: before)) => do
          let last ← descend made change path .header last
          some (replace name (.tables (last :: before)) entries)
      | some _ => none

/-
  Add a value under a key.  A plain key does not go into a
  table that a dotted key has opened, nor a dotted one into a
  table of another kind.
-/
def addValue
    (path : List String)
    (name : String)
    (value : Toml)
    (entries : Entries) :
    Option Entries :=
  descend .dotted
    (fun here entries =>
      if (here == .dotted) == path.isEmpty then none
      else if (field? entries name).isSome then none
      else some (entries ++ [(name, value)]))
    path .header entries

/- Open the table of a header. -/
def openTable
    (path : List String)
    (name : String)
    (entries : Entries) :
    Option Entries :=
  descend .passed
    (fun _ entries =>
      match field? entries name with
      | none => some (entries ++ [(name, .table .header [])])
      | some (.table .passed inner) =>
          some (replace name (.table .header inner) entries)
      | some _ => none)
    path .header entries

/- Open another table of a header in double brackets. -/
def openItem
    (path : List String)
    (name : String)
    (entries : Entries) :
    Option Entries :=
  descend .passed
    (fun _ entries =>
      match field? entries name with
      | none => some (entries ++ [(name, .tables [[]])])
      | some (.tables items) =>
          some (replace name (.tables ([] :: items)) entries)
      | some _ => none)
    path .header entries

end Toml

end Componentry
