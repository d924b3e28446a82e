import Componentry.Generation.Run
import Componentry.Store.Directory
import Componentry.Store.Memory

/-
  Sessions: a store, a registry over it and what was generated
  last.

  The store is kept in memory or stands over directories of
  the session's tree of files.  Whatever asks for the records
  of a directory store makes it search again; whatever reads
  them then sees what that search has found.

  Key definitions:
    * `StoreState`
    * `Session`
    * `Session.create`, `Session.rebuild`
    * `Session.generate`, `Session.write`
-/

------------------------------------------------------------
-- Stores with State
------------------------------------------------------------

namespace Componentry

/- A store of either kind. -/
inductive StoreState where
  | memory (store : MemoryStore)
  | directory (store : DirectoryStore)

namespace StoreState

/- The answers of a store over a tree. -/
def view
    (tree : FileTree) :
    StoreState → Store
  | .memory store => store.view
  | .directory store => store.view tree

/- The store after its records have been listed. -/
def afterListing
    (tree : FileTree) :
    StoreState → StoreState
  | .memory store => .memory store
  | .directory store => .directory (store.afterListing tree)

/- The store after a record has been looked up. -/
def afterLoad
    (tree : FileTree)
    (name : String) :
    StoreState → StoreState
  | .memory store => .memory store
  | .directory store => .directory (store.afterLoad tree name)

/- Change a store that is kept in memory. -/
def edit
    (change : MemoryStore → MemoryStore) :
    StoreState → StoreState
  | .memory store => .memory (change store)
  | .directory store => .directory store

end StoreState

end Componentry

------------------------------------------------------------
-- Sessions
------------------------------------------------------------

namespace Componentry

/- A store and what has been made of it. -/
structure Session where
  tree : FileTree
  store : StoreState
  registry : Option Registry
  -- The result of the last run that succeeded.
  artifacts : Option Artifacts

namespace Session

/- The answers of the session's store. -/
def view (session : Session) : Store :=
  session.store.view session.tree

/- The session after its records have been listed. -/
def listed (session : Session) : Session :=
  { session with
    store := session.store.afterListing session.tree }

/- Change the records or texts kept in memory. -/
def edit
    (session : Session)
    (change : MemoryStore → MemoryStore) :
    Session :=
  { session with store := session.store.edit change }

/- List the records. -/
def recordNames
    (session : Session) :
    Except StoreError (List String) × Session :=
  (session.view.recordNames, session.listed)

/- Look up a record. -/
def load
    (session : Session)
    (name : String) :
    Except StoreError Descriptor × Session :=
  (session.view.load name,
    { session with
      store := session.store.afterLoad session.tree name })

/- Load the records of a class. -/
def matching
    (session : Session)
    (naming : Naming)
    (group : RecordClass) :
    Except StoreError (List Descriptor) × Session :=
  let session := session.listed
  (session.view.select (naming.selects group), session)

end Session

end Componentry

------------------------------------------------------------
-- Registries of Sessions
------------------------------------------------------------

namespace Componentry

namespace Session

/- Start over with a new registry. -/
def create
    (session : Session)
    (configuration : Configuration) :
    Except RegistryError Registry × Session :=
  match Registry.create configuration with
  | .error error =>
      (.error error, { session with registry := none })
  | .ok registry =>
      (.ok registry, { session with registry := some registry })

/- Rebuild a registry over the session's store. -/
def rebuildWith
    (session : Session)
    (registry : Registry) :
    Except RegistryError RebuildReport × Session :=
  let session := session.listed
  let (report, registry) := registry.rebuild session.view
  (report, { session with registry := some registry })

/- Rebuild the session's registry, if there is one. -/
def rebuild
    (session : Session) :
    Option (Except RegistryError RebuildReport × Session) :=
  session.registry.map session.rebuildWith

/- Start over with a new registry that is built. -/
def createBuilt
    (session : Session)
    (configuration : Configuration) :
    Except RegistryError Registry × Session :=
  match Registry.create configuration with
  | .error error =>
      (.error error, { session with registry := none })
  | .ok registry =>
      match session.rebuildWith registry with
      | (.error error, session) =>
          (.error error, { session with registry := none })
      | (.ok _, session) =>
          (.ok (session.registry.getD registry), session)

end Session

end Componentry

------------------------------------------------------------
-- Generation in Sessions
------------------------------------------------------------

namespace Componentry

namespace Session

/-
  Execute a request over a registry; what is generated is
  kept.
-/
def generateWith
    (session : Session)
    (registry : Registry)
    (extensions : Extensions)
    (request : Request) :
    Except GenerateError Artifacts × Session :=
  let session :=
    if registry.isBuilt then session else session.listed
  let (result, registry) :=
    Run.execute registry session.view extensions request
  let session := { session with registry := some registry }
  match result with
  | .error error => (.error error, session)
  | .ok artifacts =>
      (.ok artifacts,
        { session with artifacts := some artifacts })

/- Execute a request, if there is a registry. -/
def generate
    (session : Session)
    (extensions : Extensions)
    (request : Request) :
    Option (Except GenerateError Artifacts × Session) :=
  session.registry.map fun registry =>
    session.generateWith registry extensions request

/- Write what was generated last, if anything was. -/
def write
    (session : Session)
    (directory : Path) :
    Option (Except GenerateError Manifest × Session) :=
  session.artifacts.map fun artifacts =>
    let (result, tree) :=
      artifacts.write directory session.tree
    (result, { session with tree })

end Session

end Componentry
