import Componentry.Text.Pieces

/-
  Paths of files.

  A path is a text and keeps its spelling.  What it means is
  its list of components: repeated and trailing slashes do not
  count, nor does a dot, except that a dot in front of a
  relative path is a component of its own.  Two paths with the
  same components name the same place, and paths are ordered
  by their components.

  Key definitions:
    * `Path`, `Path.Component`
    * `Path.components`, `Path.isOrdinary`
    * `Path.join`, `Path.parent?`, `Path.fileName?`
    * `Path.withExtension`
-/

------------------------------------------------------------
-- Components
------------------------------------------------------------

namespace Componentry

/- A path as it is written. -/
structure Path where
  text : String
deriving DecidableEq, Repr, Inhabited

namespace Path

/- One step of a path. -/
inductive Component where
  | root
  | current
  | parent
  | normal (name : String)
deriving DecidableEq, Repr

namespace Component

/- The place of a kind of component in the order. -/
def rank : Component → Nat
  | .root => 0
  | .current => 1
  | .parent => 2
  | .normal _ => 3

/- The name of a component, if it has one. -/
def name : Component → String
  | .normal name => name
  | _ => ""

/- Components are ordered by kind, then by name. -/
instance : Ord Component :=
  ⟨compareLex (compareOn rank) (compareOn name)⟩

instance : Std.TransOrd Component :=
  inferInstanceAs
    (Std.TransCmp
      (compareLex (compareOn rank) (compareOn name)))

/- Kind and name determine a component. -/
theorem eq_of_rank_name
    {a b : Component}
    (hRank : a.rank = b.rank)
    (hName : a.name = b.name) :
    a = b := by
  cases a <;> cases b <;> simp_all [rank, name]

instance : Std.LawfulEqOrd Component where
  eq_of_compare := by
    intro a b h
    have h :
        (compare a.rank b.rank).then
          (compare a.name b.name) = .eq := h
    rw [Ordering.then_eq_eq] at h
    exact eq_of_rank_name
      (Std.LawfulEqOrd.eq_of_compare h.1)
      (Std.LawfulEqOrd.eq_of_compare h.2)

/- Is this the name of a file or a directory? -/
def isNormal : Component → Bool
  | .normal _ => true
  | _ => false

/- The component that a piece between slashes stands for. -/
def ofPiece? (piece : List Char) : Option Component :=
  if piece = [] || piece = ['.'] then none
  else if piece = ['.', '.'] then some .parent
  else some (.normal (String.ofList piece))

end Component

end Path

end Componentry

------------------------------------------------------------
-- Reading a Path
------------------------------------------------------------

namespace Componentry

namespace Path

/- Does a path start at the root? -/
def isAbsolute (path : Path) : Bool :=
  path.text.toList.head? == some '/'

/- The slash of the root, if the path has it. -/
def rootText (path : Path) : List Char :=
  if path.isAbsolute then ['/'] else []

/- The pieces between the slashes, behind the root. -/
def pieces (path : Path) : List (List Char) :=
  Text.pieces (· == '/')
    (if path.isAbsolute then path.text.toList.tail
     else path.text.toList)

/- The first component of a relative path. -/
def firstComponent? (piece : List Char) : Option Component :=
  if piece = ['.'] then some .current
  else Component.ofPiece? piece

/- The components of a path. -/
def components (path : Path) : List Component :=
  if path.isAbsolute then
    .root :: path.pieces.filterMap Component.ofPiece?
  else
    match path.pieces with
    | [] => []
    | first :: rest =>
        (firstComponent? first).toList
          ++ rest.filterMap Component.ofPiece?

/- Do two paths have the same components? -/
def same
    (a b : Path) :
    Bool :=
  a.components == b.components

/-
  A path made of names only: it has components, and climbs
  nowhere and starts at no root.
-/
def isOrdinary (path : Path) : Bool :=
  !path.components.isEmpty
    && path.components.all Component.isNormal

end Path

end Componentry

------------------------------------------------------------
-- The Last Component
------------------------------------------------------------

namespace Componentry

namespace Path

/-
  Cut the pieces at the end that stand for no component.  A
  dot stands for one at the start of a relative path.
-/
def cutIdle
    (dotIsIdle : Bool) :
    List (List Char) → List (List Char)
  | [] => []
  | piece :: rest =>
      match cutIdle true rest with
      | [] =>
          if piece = [] || (piece = ['.'] && dotIsIdle) then []
          else [piece]
      | kept => piece :: kept

/- The pieces of a path up to its last component. -/
def body (path : Path) : List (List Char) :=
  cutIdle path.isAbsolute path.pieces

/- Put slashes between pieces. -/
def joinPieces : List (List Char) → List Char
  | [] => []
  | [piece] => piece
  | piece :: next :: rest =>
      piece ++ '/' :: joinPieces (next :: rest)

/- The path without its last component. -/
def parent? (path : Path) : Option Path :=
  if path.body.isEmpty then none
  else
    let kept := cutIdle path.isAbsolute path.body.dropLast
    some ⟨String.ofList (path.rootText ++ joinPieces kept)⟩

/- The name that a path ends with. -/
def fileName? (path : Path) : Option String :=
  match path.body.getLast? with
  | none => none
  | some piece =>
      if piece = ['.'] || piece = ['.', '.'] then none
      else some (String.ofList piece)

/- The part of a name before its last dot, and what follows. -/
def cutExtension
    (name : List Char) :
    List Char × Option (List Char) :=
  match Text.cutLast (· == '.') name with
  | some (c :: stem, _, extension) =>
      (c :: stem, some extension)
  | _ => (name, none)

/- The extension of the name that a path ends with. -/
def extension? (path : Path) : Option String :=
  path.fileName?.bind fun name =>
    (cutExtension name.toList).2.map String.ofList

/- The last name of a path without its extension. -/
def fileStem? (path : Path) : Option String :=
  path.fileName?.map fun name =>
    String.ofList (cutExtension name.toList).1

end Path

end Componentry

------------------------------------------------------------
-- Building Paths
------------------------------------------------------------

namespace Componentry

namespace Path

/-
  One path behind another.  An absolute right side replaces
  the left one.
-/
def join
    (left right : Path) :
    Path :=
  if right.isAbsolute then right
  else
    match left.text.toList.getLast? with
    | none => right
    | some '/' => ⟨left.text ++ right.text⟩
    | some _ => ⟨left.text ++ "/" ++ right.text⟩

/-
  The path with another extension, in place of the old one if
  it has one.  A path that ends with no name is left alone.  A
  name that would lose all but its dots, such as `..x`, only
  loses its extension.
-/
def withExtension
    (path : Path)
    (extension : String) :
    Path :=
  match path.fileName? with
  | none => path
  | some name =>
      let stem := (cutExtension name.toList).1
      let lead :=
        path.rootText
          ++ path.body.dropLast.flatMap (· ++ ['/'])
      if stem = ['.'] && path.body == path.pieces then
        ⟨String.ofList (lead ++ ['.', '.'])⟩
      else
        ⟨String.ofList
          (lead ++ stem ++ '.' :: extension.toList)⟩

end Path

end Componentry
