import Componentry.Composition.Fault
import Componentry.Composition.TypeName
import Componentry.Text.Layout

/-
  The code of task contexts.

  Each kind of element has one generator.  The set of
  generators is complete when it is built, and then writes the
  members, the initializer list and the registrations of a
  task class.  The names of a task's elements are identifiers
  and differ from each other.

  Key definitions:
    * `ElementCode`, `Generator`
    * `Generators`, `Capabilities`
    * `Capabilities.element`
    * `Capabilities.task`
-/

------------------------------------------------------------
-- Generators
------------------------------------------------------------

namespace Componentry

/- The code of an element. -/
structure ElementCode where
  -- The member of the task class.
  declaration : String
  -- The entry of the constructor's initializer list.
  initializer : String
  -- The statement that registers the element.
  registration : String
deriving DecidableEq, Repr

/- Writes the code of an element of a named task. -/
abbrev Generator :=
  String → Element → Except ComposeError ElementCode

/- Generators registered so far. -/
structure Generators where
  find? : ElementKind → Option Generator

/- One generator for every kind. -/
structure Capabilities where
  generator : ElementKind → Generator

namespace Generators

/- No generator at all. -/
def empty : Generators :=
  ⟨fun _ => none⟩

/- Add the generator of a kind that has none. -/
def register
    (generators : Generators)
    (kind : ElementKind)
    (generator : Generator) :
    Except ComposeError Generators :=
  match generators.find? kind with
  | some _ => .error (.config (.duplicateGenerator kind))
  | none =>
      .ok ⟨fun other =>
        if other = kind then some generator
        else generators.find? other⟩

/- The kinds without a generator. -/
def missing (generators : Generators) : List ElementKind :=
  ElementKind.all.filter fun kind =>
    (generators.find? kind).isNone

/- A kind that is not missing has a generator. -/
theorem isSome_of_missing
    {generators : Generators}
    (h : generators.missing = [])
    (kind : ElementKind) :
    (generators.find? kind).isSome := by
  unfold missing at h
  rw [List.filter_eq_nil_iff] at h
  have hKind : kind ∈ ElementKind.all := by
    cases kind <;> decide
  have := h kind hKind
  cases hFound : generators.find? kind with
  | none => simp [hFound] at this
  | some generator => rfl

/- The complete set of generators, if none is missing. -/
def build
    (generators : Generators) :
    Except ComposeError Capabilities :=
  if h : generators.missing = [] then
    .ok ⟨fun kind =>
      (generators.find? kind).get
        (isSome_of_missing h kind)⟩
  else
    .error (.config (.missingGenerators generators.missing))

end Generators

end Componentry

------------------------------------------------------------
-- Built-in Generators
------------------------------------------------------------

namespace Componentry

/- A member of a templated class of the toolkit. -/
def memberDeclaration
    (family : String)
    (type : String)
    (name : String) :
    String :=
  "RTT::" ++ family ++ "< " ++ type ++ " > _" ++ name ++ ";"

/- The entry of the initializer list with some arguments. -/
def memberInitializer
    (name : String)
    (arguments : List String) :
    String :=
  "_" ++ name ++ "("
    ++ ", ".intercalate (("\"" ++ name ++ "\"") :: arguments)
    ++ ")"

/- The call that registers a member. -/
def memberRegistration
    (call : String)
    (name : String) :
    String :=
  call ++ "(_" ++ name ++ ");"

/- The code of an element for the component toolkit. -/
def ElementKind.code
    (kind : ElementKind)
    (task : String)
    (element : Element) :
    ElementCode :=
  let name := element.name
  let type := "::" ++ TypeName.cxx element.typeName
  match kind with
  | .attribute =>
      ⟨memberDeclaration "Attribute" type name,
       memberInitializer name [],
       memberRegistration "provides()->addAttribute" name⟩
  | .property =>
      ⟨memberDeclaration "Property" type name,
       memberInitializer name ["\"\""],
       memberRegistration "properties()->addProperty" name⟩
  | .operation =>
      ⟨memberDeclaration "Operation" element.typeName name,
       memberInitializer name
         ["&" ++ task ++ "Base::" ++ name, "this",
          "RTT::OwnThread"],
       memberRegistration "provides()->addOperation" name⟩
  | .inputPort =>
      ⟨memberDeclaration "InputPort" type name,
       memberInitializer name [],
       memberRegistration "ports()->addPort" name⟩
  | .outputPort =>
      ⟨memberDeclaration "OutputPort" type name,
       memberInitializer name [],
       memberRegistration "ports()->addPort" name⟩

/- The built-in generator of a kind. -/
def ElementKind.generator
    (kind : ElementKind) :
    Generator :=
  fun task element => .ok (kind.code task element)

/- The built-in generators. -/
def Capabilities.builtin : Capabilities :=
  ⟨ElementKind.generator⟩

end Componentry

------------------------------------------------------------
-- Elements and Tasks
------------------------------------------------------------

namespace Componentry

/- The code of a task context. -/
structure TaskCode where
  declarations : String
  initializers : String
  registrations : String
deriving DecidableEq, Repr

namespace Capabilities

/- The code of an element with a proper name and a type. -/
def element
    (capabilities : Capabilities)
    (task : String)
    (element : Element) :
    Except ComposeError ElementCode :=
  if !Text.isIdentifier element.name then
    .error (.config (.badElementName task element))
  else if Text.isBlankText element.typeName then
    .error (.config (.untypedElement task element))
  else capabilities.generator element.kind task element

/- The codes of elements whose names are new. -/
def elements
    (capabilities : Capabilities)
    (task : String)
    (seen : List String) :
    List Element → Except ComposeError (List ElementCode)
  | [] => .ok []
  | element :: rest =>
      if seen.contains element.name then
        .error (.config (.repeatedElement task element.name))
      else do
        let code ← capabilities.element task element
        let codes ←
          capabilities.elements task (element.name :: seen) rest
        .ok (code :: codes)

/- Put the codes of elements together. -/
def assemble (codes : List ElementCode) : TaskCode where
  declarations := Text.unlines (codes.map (·.declaration))
  initializers :=
    ",\n".intercalate (codes.map (·.initializer))
  registrations := Text.unlines (codes.map (·.registration))

/- The code of a task context. -/
def task
    (capabilities : Capabilities)
    (task : TaskContext) :
    Except ComposeError TaskCode :=
  if !Text.isIdentifier task.name then
    .error (.config (.badTaskName task.name))
  else do
    let codes ←
      capabilities.elements task.name [] task.elements
    .ok (assemble codes)

end Capabilities

end Componentry
