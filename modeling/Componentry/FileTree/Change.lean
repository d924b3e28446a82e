import Componentry.FileTree.Basic

/-
  Changing trees of files.

  A change that fails may have made directories before; the
  tree that it leaves behind is always part of its result.

  A file is replaced as a whole: its bytes are written under a
  spare name and moved to its place then.  A link at its place
  is replaced and not followed.

  Key definitions:
    * `FileTree.makeDirectory`, `FileTree.makeDirectories`
    * `FileTree.writeSpare`, `FileTree.moveFile`
    * `FileTree.place`, `FileTree.remove`
    * `FileTree.listing`
-/

------------------------------------------------------------
-- Directories
------------------------------------------------------------

namespace Componentry

namespace FileTree

/- Make one directory, in a directory that exists. -/
def makeDirectory
    (tree : FileTree)
    (path : Path) :
    Except FileFault FileTree :=
  match tree.locate false path with
  | .error fault => .error fault
  | .ok (.absent place) => .ok (tree.set place .directory)
  | .ok _ => .error .alreadyExists

/-
  Make a directory unless it is there.  On failure a directory
  that is there after all is no fault.
-/
def ensureDirectory
    (tree : FileTree)
    (path : Path) :
    Except FileFault FileTree :=
  match tree.makeDirectory path with
  | .ok tree => .ok tree
  | .error fault =>
      if tree.isDirectory path then .ok tree else .error fault

/-
  Make a directory and those above it, the first number being
  a bound on how many there are.
-/
def makeAncestors
    (tree : FileTree)
    (path : Path) :
    Nat → Except FileFault Unit × FileTree
  | 0 => (.error .other, tree)
  | depth + 1 =>
      if path.text = "" then (.ok (), tree)
      else
        match tree.ensureDirectory path with
        | .ok tree => (.ok (), tree)
        | .error .notFound =>
            match path.parent? with
            | none => (.error .other, tree)
            | some parent =>
                match tree.makeAncestors parent depth with
                | (.error fault, tree) => (.error fault, tree)
                | (.ok (), tree) =>
                    match tree.ensureDirectory path with
                    | .ok tree => (.ok (), tree)
                    | .error fault => (.error fault, tree)
        | .error fault => (.error fault, tree)

/- Make a directory and those above it that are missing. -/
def makeDirectories
    (tree : FileTree)
    (path : Path) :
    Except FileFault Unit × FileTree :=
  tree.makeAncestors path (path.components.length + 1)

end FileTree

end Componentry

------------------------------------------------------------
-- Files
------------------------------------------------------------

namespace Componentry

namespace FileTree

/-
  The directory and the last step of a path, and whether
  slashes follow that step.
-/
structure LastStep where
  before : List String
  last : String
  slashed : Bool

/- The last step of a path, if it has one. -/
def lastStep? (path : Path) : Option LastStep :=
  let all := (steps path.text).reverse
  match all.dropWhile (· == "") with
  | [] => none
  | last :: before =>
      some ⟨before.reverse, last, all.head? == some ""⟩

/-
  The place of a file that is to be replaced.  It must have a
  name of its own and be no directory.
-/
def filePlace
    (tree : FileTree)
    (path : Path) :
    Except FileFault Place :=
  if path.isUsable then
    match lastStep? path with
    | none =>
        .error
          (if path.isAbsolute then .resourceBusy else .notFound)
    | some step =>
        match
          walk tree true linkLimit
            (if path.isAbsolute then [] else tree.home)
            step.before
        with
        | .error fault => .error fault
        | .ok (.file _ _) => .error .notADirectory
        | .ok (.link _) => .error .notADirectory
        | .ok (.absent _) => .error .notFound
        | .ok (.directory here) =>
            if step.last = "." || step.last = ".." then
              .error .resourceBusy
            else if step.slashed then .error .notADirectory
            else
              let place := here ++ [step.last]
              match tree.entry? place with
              | some .directory => .error .isADirectory
              | _ => .ok place
  else .error .invalidInput

/-
  Move a file to where a path leads.  A file or a link that is
  there is replaced.
-/
def moveFile
    (tree : FileTree)
    (source : Place)
    (path : Path) :
    Except FileFault FileTree :=
  match tree.filePlace path with
  | .error fault => .error fault
  | .ok place =>
      match tree.entry? source with
      | none => .error .notFound
      | some entry => .ok ((tree.erase source).set place entry)

/- What a link says; other entries say nothing. -/
def Entry.target : Entry → String
  | .link target => target
  | _ => ""

/-
  A name for a file that is not at its place yet.  It is longer
  than the path of that place, all names of the tree and what
  its links say, so it is none of them and in none of them.
-/
def spareName
    (tree : FileTree)
    (path : Path) :
    String :=
  let used :=
    tree.entries.toList.flatMap fun (place, entry) =>
      entry.target :: place
  let room := ((path.text :: used).flatMap (·.toList)).length
  String.ofList ('.' :: List.replicate (room + 1) '0')

/-
  Write bytes to a new file of a directory, which is to be
  moved to a path.
-/
def writeSpare
    (tree : FileTree)
    (directory : Path)
    (path : Path)
    (bytes : ByteArray) :
    Except FileFault (Place × FileTree) :=
  let found :=
    if directory.text = "" then .ok (.directory tree.home)
    else tree.locate true directory
  match found with
  | .error fault => .error fault
  | .ok (.directory above) =>
      let place := above ++ [tree.spareName path]
      .ok (place, tree.set place (.file bytes))
  | .ok (.absent _) => .error .notFound
  | .ok _ => .error .notADirectory

end FileTree

end Componentry

------------------------------------------------------------
-- Arranging Trees
------------------------------------------------------------

namespace Componentry

namespace FileTree

/-
  Put something where a path leads, making the directories
  above it.  A tree that does not admit it is left alone.
-/
def put
    (tree : FileTree)
    (path : Path)
    (entry : Entry) :
    FileTree :=
  let tree :=
    match path.parent? with
    | none => tree
    | some parent => (tree.makeDirectories parent).2
  match tree.filePlace path with
  | .error _ => tree
  | .ok place => tree.set place entry

/- Make a directory and those above it, if possible. -/
def putDirectory
    (tree : FileTree)
    (path : Path) :
    FileTree :=
  (tree.makeDirectories path).2

/- Remove a file, a link or a directory with its content. -/
def remove
    (tree : FileTree)
    (path : Path) :
    FileTree :=
  match tree.locate false path with
  | .ok (.directory place) => tree.erase place
  | .ok (.file place _) => tree.erase place
  | .ok (.link place) => tree.erase place
  | _ => tree

/-
  The files below a directory with their bytes, each under the
  path that leads to it through the directory's own path, in
  the order of these texts.
-/
def listing
    (tree : FileTree)
    (path : Path) :
    List (String × ByteArray) :=
  match tree.directory? path with
  | none => []
  | some above =>
      let found :=
        tree.entries.toList.filterMap fun (place, _) =>
          if isBelow above place then
            let below :=
              "/".intercalate (place.drop above.length)
            let path := path.join ⟨below⟩
            match tree.read path with
            | .ok bytes => some (path.text, bytes)
            | .error _ => none
          else none
      found.mergeSort fun a b => decide (a.1 ≤ b.1)

end FileTree

end Componentry
