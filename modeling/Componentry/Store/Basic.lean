import Componentry.Descriptor.Parser
import Componentry.FileTree.Basic

/-
  Stores of descriptors and the texts they refer to.

  A store answers three questions: which records there are,
  what a record holds, and what a text holds.  Nothing is
  assumed about the answers.

  Key definitions:
    * `StoreError`
    * `Store`
    * `Store.select`
-/

------------------------------------------------------------
-- Errors
------------------------------------------------------------

namespace Componentry

/- Why a store has no answer. -/
inductive StoreError where
  | notFound (name : String)
  | textNotFound (path : Path)
  | io (path : Path) (fault : FileFault)
  | parse (path : Path) (line : Nat) (fault : ParseFault)
deriving DecidableEq, Repr

namespace StoreError

/- The text of an error. -/
def message : StoreError → String
  | .notFound name => "descriptor not found: " ++ name
  | .textNotFound path => "artifact not found: " ++ path.text
  | .io path _ => "I/O error on " ++ path.text
  | .parse path line fault =>
      "malformed descriptor " ++ path.text ++ ":"
        ++ toString line ++ ": " ++ fault.reason

/- Is this a record that could be read but not understood? -/
def isParse : StoreError → Bool
  | .parse _ _ _ => true
  | _ => false

end StoreError

end Componentry

------------------------------------------------------------
-- Stores
------------------------------------------------------------

namespace Componentry

/- The answers of a store. -/
structure Store where
  recordNames : Except StoreError (List String)
  load : String → Except StoreError Descriptor
  readText : Path → Except StoreError String

namespace Store

/- The records whose names are chosen, in order. -/
def select
    (store : Store)
    (chosen : String → Bool) :
    Except StoreError (List Descriptor) := do
  let names ← store.recordNames
  (names.filter chosen).mapM store.load

end Store

end Componentry
