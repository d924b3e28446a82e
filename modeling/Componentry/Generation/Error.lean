import Componentry.Composition.Fault
import Componentry.Registry.Basic

/-
  What may go wrong in generating files.

  Key definitions:
    * `RequestFault`
    * `GenerateError`
-/

------------------------------------------------------------
-- Errors
------------------------------------------------------------

namespace Componentry

/- What may be wrong with a request or its results. -/
inductive RequestFault where
  | repeatedDeployment (name : String)
  | repeatedTask (name : String)
  | repeatedPath (path : Path)
  | noParent (path : Path)
deriving DecidableEq, Repr

/- The text of a fault. -/
def RequestFault.message : RequestFault → String
  | .repeatedDeployment name =>
      "deployment " ++ name ++ " is requested twice"
  | .repeatedTask name =>
      "task context " ++ name ++ " is requested twice"
  | .repeatedPath path =>
      path.text ++ " would be generated twice"
  | .noParent path => path.text ++ " has no parent"

/- Why a generation failed. -/
inductive GenerateError where
  | registry (error : RegistryError)
  | compose (error : ComposeError)
  | request (fault : RequestFault)
  | io (path : Path) (fault : FileFault)
deriving DecidableEq, Repr

namespace GenerateError

/- The text of an error. -/
def message : GenerateError → String
  | .registry error => "registry error: " ++ error.message
  | .compose error => "composition error: " ++ error.message
  | .request fault => "invalid request: " ++ fault.message
  | .io path _ => "I/O error on " ++ path.text

/- Is this a fault of the configuration or the request? -/
def isConfig : GenerateError → Bool
  | .registry (.config _) => true
  | .registry _ => false
  | .compose error => error.isConfig
  | .request _ => true
  | .io _ _ => false

end GenerateError

end Componentry
