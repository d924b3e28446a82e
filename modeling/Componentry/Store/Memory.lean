import Componentry.Store.Basic

/-
  Stores kept in memory.

  Records are found by name, texts by the components of their
  path.

  Key definitions:
    * `MemoryStore`
    * `MemoryStore.view`
-/

------------------------------------------------------------
-- Memory Stores
------------------------------------------------------------

namespace Componentry

/- Records and texts in memory. -/
structure MemoryStore where
  records : Std.ExtTreeMap String Descriptor
  texts : Std.ExtTreeMap (List Path.Component) String

namespace MemoryStore

/- The store without anything. -/
def empty : MemoryStore :=
  ⟨∅, ∅⟩

/- Add or replace a record. -/
def putRecord
    (store : MemoryStore)
    (record : Descriptor) :
    MemoryStore :=
  { store with
    records := store.records.insert record.name record }

/- Remove a record. -/
def removeRecord
    (store : MemoryStore)
    (name : String) :
    MemoryStore :=
  { store with records := store.records.erase name }

/- Add or replace a text. -/
def putText
    (store : MemoryStore)
    (path : Path)
    (text : String) :
    MemoryStore :=
  { store with
    texts := store.texts.insert path.components text }

/- Remove a text. -/
def removeText
    (store : MemoryStore)
    (path : Path) :
    MemoryStore :=
  { store with texts := store.texts.erase path.components }

/- The answers of the store. -/
def view (store : MemoryStore) : Store where
  recordNames := .ok store.records.keys
  load := fun name =>
    match store.records[name]? with
    | some record => .ok record
    | none => .error (.notFound name)
  readText := fun path =>
    match store.texts[path.components]? with
    | some text => .ok text
    | none => .error (.textNotFound path)

end MemoryStore

end Componentry
