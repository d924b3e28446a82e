import Std.Data.ExtTreeMap
import Componentry.Path

/-
  Trees of files.

  A tree maps places to files, directories and symbolic links.
  A place is a list of names that leads down from the root;
  the root itself is always a directory.  Relative paths start
  at the tree's working directory.

  Paths are walked step by step.  Links on the way are
  followed, at most forty of them, and every step but the last
  has to be a directory.  A path with a null character is not
  walked at all.  Names and paths may be of any length, and
  nothing is refused for want of room or of permission.

  Key definitions:
    * `FileTree`, `FileTree.Entry`
    * `FileFault`
    * `Path.isUsable`, `FileTree.locate`
    * `FileTree.isDirectory`, `FileTree.read`
-/

------------------------------------------------------------
-- Trees
------------------------------------------------------------

namespace Componentry

/- Why a path could not be used. -/
inductive FileFault where
  | notFound
  | isADirectory
  | notADirectory
  | alreadyExists
  -- Links lead to links without end.
  | filesystemLoop
  -- Bytes that should be text are none.
  | invalidData
  -- The path has a character that no name can have.
  | invalidInput
  -- The path ends with a dot or two.
  | resourceBusy
  | other
deriving DecidableEq, Repr

namespace FileTree

/- A place in a tree. -/
abbrev Place := List String

/- What may be at a place. -/
inductive Entry where
  | file (bytes : ByteArray)
  | directory
  | link (target : String)

end FileTree

/- A tree of files and its working directory. -/
structure FileTree where
  entries : Std.ExtTreeMap FileTree.Place FileTree.Entry
  home : FileTree.Place

namespace FileTree

/- What is at a place. -/
def entry?
    (tree : FileTree)
    (place : Place) :
    Option Entry :=
  if place = [] then some .directory
  else tree.entries[place]?

/- Put something at a place. -/
def set
    (tree : FileTree)
    (place : Place)
    (entry : Entry) :
    FileTree :=
  { tree with entries := tree.entries.insert place entry }

/- A tree with nothing but its working directory. -/
def empty : FileTree where
  entries :=
    (∅ : Std.ExtTreeMap Place Entry).insert ["home"] .directory
  home := ["home"]

/- Is one place below another, at any depth? -/
def isBelow
    (above : Place)
    (place : Place) :
    Bool :=
  above.isPrefixOf place && above.length < place.length

/- The entries directly inside a directory, in name order. -/
def children
    (tree : FileTree)
    (above : Place) :
    List (String × Entry) :=
  tree.entries.toList.filterMap fun (place, entry) =>
    if isBelow above place then
      match place.drop above.length with
      | [name] => some (name, entry)
      | _ => none
    else none

/- Remove what is at a place and everything below it. -/
def erase
    (tree : FileTree)
    (place : Place) :
    FileTree :=
  { tree with
    entries := tree.entries.filter fun other _ =>
      !(other == place || isBelow place other) }

end FileTree

end Componentry

------------------------------------------------------------
-- Walking
------------------------------------------------------------

namespace Componentry

/- Has a path no null character, which ends texts for files? -/
def Path.isUsable (path : Path) : Bool :=
  !path.text.toList.contains '\x00'

namespace FileTree

/- Where a path leads. -/
inductive Target where
  | directory (place : Place)
  | file (place : Place) (bytes : ByteArray)
  -- A link that was not followed.
  | link (place : Place)
  -- Nothing, in a directory that exists.
  | absent (place : Place)

/- The steps of a path: the pieces between its slashes. -/
def steps (text : String) : List String :=
  Text.splitAt '/' text

/- A step that leads nowhere. -/
def isIdle (step : String) : Bool :=
  step = "" || step = "."

/-
  Walk from a directory.  A link is handed to `jump`, with its
  directory and the steps behind it; the last one only if
  links are to be followed to the end.
-/
def walkFrom
    (tree : FileTree)
    (follow : Bool)
    (jump :
      Place → String → List String → Except FileFault Target)
    (here : Place) :
    List String → Except FileFault Target
  | [] => .ok (.directory here)
  | step :: rest =>
      if isIdle step then walkFrom tree follow jump here rest
      else if step = ".." then
        walkFrom tree follow jump here.dropLast rest
      else
        let place := here ++ [step]
        match tree.entry? place with
        | none =>
            if rest.all (· == "") then .ok (.absent place)
            else .error .notFound
        | some .directory =>
            walkFrom tree follow jump place rest
        | some (.file bytes) =>
            if rest.isEmpty then .ok (.file place bytes)
            else .error .notADirectory
        | some (.link target) =>
            if rest.isEmpty && !follow then .ok (.link place)
            else jump here target rest

/- Does the text of a path start at the root? -/
def startsAtRoot (text : String) : Bool :=
  text.toList.head? == some '/'

/- Walk from a directory, following a number of links. -/
def walk
    (tree : FileTree)
    (follow : Bool) :
    Nat → Place → List String → Except FileFault Target
  | 0, here, steps =>
      walkFrom tree follow
        (fun _ _ _ => .error .filesystemLoop) here steps
  | links + 1, here, steps =>
      walkFrom tree follow
        (fun here target rest =>
          walk tree follow links
            (if startsAtRoot target then [] else here)
            (FileTree.steps target ++ rest))
        here steps

/- The number of links that a walk may follow. -/
def linkLimit : Nat := 40

/- Where a path leads; the empty path leads nowhere. -/
def locate
    (tree : FileTree)
    (follow : Bool)
    (path : Path) :
    Except FileFault Target :=
  if path.text = "" then .error .notFound
  else if path.isUsable then
    walk tree follow linkLimit
      (if path.isAbsolute then [] else tree.home)
      (steps path.text)
  else .error .invalidInput

end FileTree

end Componentry

------------------------------------------------------------
-- Reading
------------------------------------------------------------

namespace Componentry

namespace FileTree

/- The place of a directory that a path leads to. -/
def directory?
    (tree : FileTree)
    (path : Path) :
    Option Place :=
  match tree.locate true path with
  | .ok (.directory place) => some place
  | _ => none

/- Does a path lead to a directory? -/
def isDirectory
    (tree : FileTree)
    (path : Path) :
    Bool :=
  (tree.directory? path).isSome

/- The bytes of the file that a path leads to. -/
def read
    (tree : FileTree)
    (path : Path) :
    Except FileFault ByteArray :=
  match tree.locate true path with
  | .error fault => .error fault
  | .ok (.file _ bytes) => .ok bytes
  | .ok (.directory _) => .error .isADirectory
  | .ok (.link _) => .error .filesystemLoop
  | .ok (.absent _) => .error .notFound

end FileTree

end Componentry
