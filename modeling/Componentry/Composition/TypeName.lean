import Componentry.Text.Pieces

/-
  Spellings of type names.

  A type registry writes a type as a path: `/base/Time`, with
  arguments in angle brackets that are paths again.  In C++
  the steps of a path are joined by double colons; a slash
  that opens a path is dropped.  Generated functions carry the
  words of the name joined by underscores.

  Key definitions:
    * `TypeName.cxx`
    * `TypeName.method`
-/

------------------------------------------------------------
-- C++ Names
------------------------------------------------------------

namespace Componentry

namespace TypeName

/- Does a slash behind this character open a path? -/
def opensPath : Option Char → Bool
  | none => true
  | some c => c == '<' || c == ',' || c == ' '

/- The C++ spelling of a text behind a character. -/
def cxxAfter
    (previous : Option Char) :
    List Char → List Char
  | [] => []
  | c :: cs =>
      let here :=
        if c = '/' then
          if opensPath previous then [] else [':', ':']
        else [c]
      here ++ cxxAfter (some c) cs

/- The C++ spelling of a type name. -/
def cxx (name : String) : String :=
  String.ofList (cxxAfter none name.toList)

end TypeName

end Componentry

------------------------------------------------------------
-- Method Names
------------------------------------------------------------

namespace Componentry

namespace TypeName

/- The words of a type name: its letters and digits. -/
def words (name : String) : List String :=
  ((Text.pieces (!·.isAlphanum) name.toList).filter
    (!·.isEmpty)).map String.ofList

/- The words of a type name, joined by underscores. -/
def method (name : String) : String :=
  "_".intercalate (words name)

end TypeName

end Componentry
