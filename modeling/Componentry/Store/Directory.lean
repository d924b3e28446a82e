import Componentry.Store.Basic
import Componentry.Text.Utf8

/-
  Stores over directories of descriptor files.

  The directories are searched in order, each without its
  sub-directories; a file `NAME.pc` holds the record NAME, and
  the first directory that has a name wins.  Links are
  followed.  A link that leads nowhere is skipped, and so is a
  directory that does not exist.

  The store remembers what it found.  A listing searches
  again; a single record is looked up in memory first and
  searched for only if its name is unknown.  A search that
  fails leaves the memory as it was.

  Key definitions:
    * `DirectoryStore.search`
    * `DirectoryStore`, `DirectoryStore.view`
    * `DirectoryStore.afterListing`
    * `DirectoryStore.afterLoad`
-/

------------------------------------------------------------
-- Searching
------------------------------------------------------------

namespace Componentry

namespace DirectoryStore

/- Records found so far: the path of each name. -/
abbrev Index := Std.ExtTreeMap String Path

/- The extension of descriptor files. -/
def descriptorExtension : String := "pc"

/-
  Is a child of a directory a file?  A link is followed; one
  that leads back to the directory is a fault.
-/
def isFile
    (tree : FileTree)
    (above : FileTree.Place)
    (path : Path)
    (entry : FileTree.Entry) :
    Except FileFault Bool :=
  match entry with
  | .file _ => .ok true
  | .directory => .ok false
  | .link _ =>
      match tree.locate true path with
      | .error .notFound => .ok false
      | .error fault => .error fault
      | .ok (.absent _) => .ok false
      | .ok (.file _ _) => .ok true
      | .ok (.link _) => .ok false
      | .ok (.directory place) =>
          if place = above then .error .other else .ok false

/- The record that a file name stands for. -/
def recordName? (name : String) : Option String :=
  let path : Path := ⟨name⟩
  if path.extension? = some descriptorExtension then
    path.fileStem?
  else none

/- The record of a child of a directory, if it holds one. -/
def recordOf
    (tree : FileTree)
    (directory : Path)
    (above : FileTree.Place)
    (child : String × FileTree.Entry) :
    Except StoreError (Option (String × Path)) :=
  let path := directory.join ⟨child.1⟩
  match isFile tree above path child.2 with
  | .error fault => .error (.io path fault)
  | .ok false => .ok none
  | .ok true =>
      .ok ((recordName? child.1).map fun name => (name, path))

/- The records of a directory. -/
def searchDirectory
    (tree : FileTree)
    (directory : Path) :
    Except StoreError (List (String × Path)) :=
  match tree.directory? directory with
  | none => .ok []
  | some above => do
      let found ←
        (tree.children above).mapM
          (recordOf tree directory above)
      .ok (found.filterMap id)

/- Add records whose names are new. -/
def addNew
    (index : Index)
    (found : List (String × Path)) :
    Index :=
  found.foldl
    (fun index (name, path) => index.insertIfNew name path)
    index

/- The records of all directories, earlier ones first. -/
def searchFrom
    (tree : FileTree)
    (index : Index) :
    List Path → Except StoreError Index
  | [] => .ok index
  | directory :: rest => do
      let found ← searchDirectory tree directory
      searchFrom tree (addNew index found) rest

/- The records of some directories. -/
def search
    (tree : FileTree)
    (directories : List Path) :
    Except StoreError Index :=
  searchFrom tree ∅ directories

/- Read and understand a descriptor file. -/
def loadFile
    (tree : FileTree)
    (name : String)
    (path : Path) :
    Except StoreError Descriptor :=
  match tree.read path with
  | .error fault => .error (.io path fault)
  | .ok bytes =>
      match Text.decodeUtf8 bytes with
      | .error line => .error (.parse path line .notText)
      | .ok text =>
          match Descriptor.parse name path text with
          | .error (line, fault) =>
              .error (.parse path line fault)
          | .ok record => .ok record

/- Read a text file. -/
def readText
    (tree : FileTree)
    (path : Path) :
    Except StoreError String :=
  match tree.read path with
  | .error .notFound => .error (.textNotFound path)
  | .error fault => .error (.io path fault)
  | .ok bytes =>
      match Text.decodeUtf8 bytes with
      | .error _ => .error (.io path .invalidData)
      | .ok text => .ok text

end DirectoryStore

end Componentry

------------------------------------------------------------
-- Directory Stores
------------------------------------------------------------

namespace Componentry

/- Directories to search, and what was found last. -/
structure DirectoryStore where
  searchPaths : List Path
  index : DirectoryStore.Index

namespace DirectoryStore

/- A store that has not searched yet. -/
def ofPaths (searchPaths : List Path) : DirectoryStore :=
  ⟨searchPaths, ∅⟩

/- The path of a record, searched for if it is unknown. -/
def pathOf
    (store : DirectoryStore)
    (tree : FileTree)
    (name : String) :
    Except StoreError Path :=
  match store.index[name]? with
  | some path => .ok path
  | none =>
      match search tree store.searchPaths with
      | .error error => .error error
      | .ok found =>
          match found[name]? with
          | some path => .ok path
          | none => .error (.notFound name)

/- The answers of the store over a tree. -/
def view
    (store : DirectoryStore)
    (tree : FileTree) :
    Store where
  recordNames :=
    (search tree store.searchPaths).map (·.keys)
  load := fun name =>
    match store.pathOf tree name with
    | .error error => .error error
    | .ok path => loadFile tree name path
  readText := readText tree

/- The store after its records have been listed. -/
def afterListing
    (store : DirectoryStore)
    (tree : FileTree) :
    DirectoryStore :=
  match search tree store.searchPaths with
  | .error _ => store
  | .ok found => { store with index := found }

/- The store after a record has been looked up. -/
def afterLoad
    (store : DirectoryStore)
    (tree : FileTree)
    (name : String) :
    DirectoryStore :=
  if store.index.contains name then store
  else store.afterListing tree

end DirectoryStore

end Componentry
