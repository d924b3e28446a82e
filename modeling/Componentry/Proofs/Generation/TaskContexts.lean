import Componentry.Proofs.Generation.Tasks
import Componentry.Proofs.Text.Layouts

/-
  What is generated for task contexts.

  A sound task context gets the codes of its elements, in
  their order.  Any other one is refused for its name, or for
  the first element that does not go with those in front of
  it.  So a task context of two parts gets the texts of both
  parts, one behind the other.

  Main declarations:
    * `Element.HasFault`, `TaskContext.FirstFault`
    * `Capabilities.task_eq_error_iff`
    * `Capabilities.Generates`
    * `Capabilities.generates_registered`
-/

------------------------------------------------------------
-- Faults of Elements
------------------------------------------------------------

namespace Componentry

/-
  The fault of an element of a task where some names have been
  seen: its name is one of them, or else it is no identifier,
  or else its type is blank.
-/
inductive Element.HasFault
    (task : String)
    (seen : List String)
    (element : Element) :
    ConfigFault → Prop where
  | repeated
      (hSeen : element.name ∈ seen) :
      HasFault task seen element
        (.repeatedElement task element.name)
  | unnamed
      (hNew : element.name ∉ seen)
      (hName : Text.isIdentifier element.name = false) :
      HasFault task seen element
        (.badElementName task element)
  | untyped
      (hNew : element.name ∉ seen)
      (hName : Text.isIdentifier element.name = true)
      (hType : Text.isBlankText element.typeName = true) :
      HasFault task seen element
        (.untypedElement task element)

variable {task : String}
variable {seen others : List String}
variable {element : Element}
variable {fault : ConfigFault}

/- Only whether its own name was seen makes a difference. -/
theorem Element.HasFault.congr
    (hFault : element.HasFault task seen fault)
    (hSame : element.name ∈ seen ↔ element.name ∈ others) :
    element.HasFault task others fault := by
  cases hFault with
  | repeated hSeen => exact .repeated (hSame.mp hSeen)
  | unnamed hNew hName =>
      exact .unnamed (mt hSame.mpr hNew) hName
  | untyped hNew hName hType =>
      exact .untyped (mt hSame.mpr hNew) hName hType

namespace Capabilities

/- An element with a new name is refused for its own fault. -/
theorem element_eq_error_iff
    {error : ComposeError}
    (hNew : element.name ∉ seen) :
    builtin.element task element = .error error ↔
      ∃ fault,
        element.HasFault task seen fault ∧
          error = .config fault := by
  unfold Capabilities.element
  constructor
  · intro hError
    cases hName : Text.isIdentifier element.name with
    | false =>
        rw [hName] at hError
        cases hError
        exact ⟨_, .unnamed hNew hName, rfl⟩
    | true =>
        cases hType : Text.isBlankText element.typeName with
        | false =>
            rw [hName, hType] at hError
            cases hError
        | true =>
            rw [hName, hType] at hError
            cases hError
            exact ⟨_, .untyped hNew hName hType, rfl⟩
  · rintro ⟨fault, hFault, rfl⟩
    cases hFault with
    | repeated hSeen => exact absurd hSeen hNew
    | unnamed _ hName =>
        rw [hName]
        rfl
    | untyped _ hName hType =>
        rw [hName, hType]
        rfl

/-
  The first element that has a fault behind those in front of
  it is reported.
-/
theorem elements_eq_error_iff
    {elements : List Element}
    {error : ComposeError} :
    builtin.elements task seen elements = .error error ↔
      ∃ before element after,
        elements = before ++ element :: after ∧
          AreNew seen (before.map (·.name)) ∧
            (∀ other ∈ before, other.IsSound) ∧
            ∃ fault,
              element.HasFault task
                  (before.map (·.name) ++ seen) fault ∧
                error = .config fault := by
  induction elements generalizing seen with
  | nil => simp [Capabilities.elements]
  | cons element elements ih =>
      rw [exists_split_cons_iff]
      unfold Capabilities.elements
      by_cases hSeen : element.name ∈ seen
      · -- No other fault is looked for.
        rw [if_pos (List.contains_iff_mem.mpr hSeen)]
        constructor
        · intro hError
          cases hError
          exact
            Or.inl
              ⟨areNew_nil, by simp, _, .repeated hSeen, rfl⟩
        · rintro (⟨-, -, fault, hFault, rfl⟩ |
            ⟨_, _, _, -, hNew, -⟩)
          · cases hFault with
            | repeated _ => rfl
            | unnamed hNew _ => exact absurd hSeen hNew
            | untyped hNew _ _ => exact absurd hSeen hNew
          · exact absurd hSeen (areNew_cons_iff.mp hNew).1
      · have hSame (before : List Element) (other : Element) :
            other.name ∈
                before.map (·.name) ++ element.name :: seen ↔
              other.name ∈
                (element :: before).map (·.name) ++ seen :=
          List.perm_middle.mem_iff
        rw [if_neg (mt List.contains_iff_mem.mp hSeen)]
        simp only [bind_eq_error_iff,
          element_eq_error_iff hSeen, element_eq_ok_iff, ih,
          reduceCtorEq, and_false, exists_false, or_false,
          List.map_cons, areNew_cons_iff,
          List.forall_mem_cons]
        constructor
        · rintro (hElement |
            ⟨_, ⟨hSound, -⟩, before, other, after, hHere,
              hNew, hBefore, fault, hFault, hError⟩)
          · exact Or.inl ⟨areNew_nil, by simp, hElement⟩
          · exact
              Or.inr
                ⟨before, other, after, hHere, ⟨hSeen, hNew⟩,
                  ⟨hSound, hBefore⟩, fault,
                  hFault.congr (hSame before other), hError⟩
        · rintro (⟨-, -, hElement⟩ |
            ⟨before, other, after, hHere, ⟨-, hNew⟩,
              ⟨hSound, hBefore⟩, fault, hFault, hError⟩)
          · exact Or.inl hElement
          · exact
              Or.inr
                ⟨_, ⟨hSound, rfl⟩, before, other, after,
                  hHere, hNew, hBefore, fault,
                  hFault.congr (hSame before other).symm,
                  hError⟩

end Capabilities

end Componentry

------------------------------------------------------------
-- Faults of Task Contexts
------------------------------------------------------------

namespace Componentry

/-
  The fault of a task context: its name is no identifier, or
  else it is that of the first element which has one.
-/
inductive TaskContext.FirstFault
    (task : TaskContext) :
    ConfigFault → Prop where
  | unnamed
      (hName : Text.isIdentifier task.name = false) :
      FirstFault task (.badTaskName task.name)
  | element
      {before after : List Element}
      {element : Element}
      {fault : ConfigFault}
      (hHere : task.elements = before ++ element :: after)
      (hBefore : TaskContext.IsSound ⟨task.name, before⟩)
      (hFault :
        element.HasFault task.name (before.map (·.name))
          fault) :
      FirstFault task fault

/- A task context is refused for its first fault. -/
theorem Capabilities.task_eq_error_iff
    {task : TaskContext}
    {error : ComposeError} :
    builtin.task task = .error error ↔
      ∃ fault,
        task.FirstFault fault ∧ error = .config fault := by
  unfold Capabilities.task
  cases hName : Text.isIdentifier task.name with
  | false =>
      constructor
      · intro hError
        cases hError
        exact ⟨_, .unnamed hName, rfl⟩
      · rintro ⟨fault, hFault, rfl⟩
        cases hFault with
        | unnamed _ => rfl
        | element _ hBefore _ =>
            rw [hBefore.named] at hName
            cases hName
  | true =>
      simp only [Bool.not_true, Bool.false_eq_true, if_false,
        bind_eq_error_iff, reduceCtorEq, and_false,
        exists_false, or_false, elements_eq_error_iff,
        areNew_iff_nodup, List.append_nil]
      constructor
      · rintro
          ⟨before, element, after, hHere, hDistinct, hSound,
            fault, hFault, rfl⟩
        exact
          ⟨fault,
            .element hHere ⟨hName, hDistinct, hSound⟩ hFault,
            rfl⟩
      · rintro ⟨fault, hFault, rfl⟩
        cases hFault with
        | unnamed hOther =>
            rw [hOther] at hName
            cases hName
        | element hHere hBefore hFault =>
            exact
              ⟨_, _, _, hHere, hBefore.distinct,
                hBefore.elements, fault, hFault, rfl⟩

/- The name of an element is checked against those before. -/
example :
    Capabilities.builtin.task
        ⟨"Driver",
          [⟨.property, "device", "/std/string"⟩,
           ⟨.inputPort, "device", " "⟩,
           ⟨.operation, "9lives", "bool()"⟩]⟩ =
      .error (.config (.repeatedElement "Driver" "device")) := by
  decide

end Componentry

------------------------------------------------------------
-- Parts of Task Contexts
------------------------------------------------------------

namespace Componentry

variable {task : TaskContext}
variable {front back : List Element}

/- Both parts of a sound task context are sound. -/
theorem TaskContext.IsSound.parts
    (hSound : task.IsSound)
    (hParts : task.elements = front ++ back) :
    TaskContext.IsSound ⟨task.name, front⟩ ∧
      TaskContext.IsSound ⟨task.name, back⟩ := by
  have hDistinct := hSound.distinct
  have hElements := hSound.elements
  rw [hParts, List.map_append, List.nodup_append] at hDistinct
  rw [hParts, List.forall_mem_append] at hElements
  exact
    ⟨⟨hSound.named, hDistinct.1, hElements.1⟩,
      ⟨hSound.named, hDistinct.2.1, hElements.2⟩⟩

theorem TaskContext.codes_append
    (hParts : task.elements = front ++ back) :
    task.codes =
      TaskContext.codes ⟨task.name, front⟩ ++
        TaskContext.codes ⟨task.name, back⟩ := by
  rw [codes, hParts, List.map_append]
  rfl

namespace Capabilities

variable {first second : List ElementCode}

/- Initializers have something between them, if any. -/
theorem initializers_append
    (hFirst : first ≠ [])
    (hSecond : second ≠ []) :
    ",\n".intercalate ((first ++ second).map (·.initializer)) =
      ",\n".intercalate (first.map (·.initializer)) ++ ",\n"
        ++ ",\n".intercalate (second.map (·.initializer)) := by
  rw [List.map_append]
  apply String.intercalate_append_of_ne_nil
  · exact mt List.map_eq_nil_iff.mp hFirst
  · exact mt List.map_eq_nil_iff.mp hSecond

/- All other texts are put behind each other. -/
theorem unlines_codes_append
    (text : ElementCode → String) :
    Text.unlines ((first ++ second).map text) =
      Text.unlines (first.map text) ++
        Text.unlines (second.map text) := by
  rw [List.map_append, Text.unlines_append]

/- Each of them is ended by a line feed. -/
theorem unlines_codes
    (text : ElementCode → String)
    (codes : List ElementCode) :
    Text.unlines (codes.map text) =
      String.join (codes.map (text · ++ "\n")) := by
  induction codes with
  | nil => rfl
  | cons code codes ih =>
      rw [List.map_cons, Text.unlines, ih, List.map_cons,
        String.join_cons]

end Capabilities

end Componentry

------------------------------------------------------------
-- Generated Task Contexts
------------------------------------------------------------

namespace Componentry

/- The code of a task context is that of two parts. -/
structure TaskCode.Joins
    (code first second : TaskCode) : Prop where
  declarations :
    code.declarations =
      first.declarations ++ second.declarations
  initializers :
    code.initializers =
      first.initializers ++ ",\n" ++ second.initializers
  registrations :
    code.registrations =
      first.registrations ++ second.registrations

/- What some generators make of a task context. -/
structure Capabilities.Generates
    (capabilities : Capabilities)
    (task : TaskContext) : Prop where
  -- It is accepted if it is sound.
  accepted :
    (∃ code, capabilities.task task = .ok code) ↔
      task.IsSound
  -- Then the codes of its elements stand in their order.
  written :
    ∀ code,
      capabilities.task task = .ok code →
        code.declarations =
            String.join
              (task.codes.map (·.declaration ++ "\n")) ∧
          code.initializers =
            ",\n".intercalate
              (task.codes.map (·.initializer)) ∧
          code.registrations =
            String.join
              (task.codes.map (·.registration ++ "\n"))
  -- It may be cut in two parts wherever there is an element.
  joined :
    ∀ front back code,
      task.elements = front ++ back →
      front ≠ [] →
      back ≠ [] →
      capabilities.task task = .ok code →
        ∃ first second,
          capabilities.task ⟨task.name, front⟩ = .ok first ∧
            capabilities.task ⟨task.name, back⟩ =
                .ok second ∧
              code.Joins first second
  -- Otherwise its first fault is reported.
  refused :
    ∀ error,
      capabilities.task task = .error error ↔
        ∃ fault,
          task.FirstFault fault ∧ error = .config fault

/- One generator after the other is registered. -/
theorem Generators.register_all :
    ElementKind.all.foldlM
        (fun generators kind =>
          generators.register kind kind.generator)
        empty =
      .ok ⟨fun kind => some kind.generator⟩ := by
  have hSame {first second : ElementKind → Option Generator}
      (hKinds : ∀ kind, first kind = second kind) :
      (.ok ⟨first⟩ : Except ComposeError Generators) =
        .ok ⟨second⟩ := by
    rw [funext hKinds]
  apply hSame
  intro kind
  cases kind <;> rfl

namespace Capabilities

/- The built-in generators go by the elements of a task. -/
theorem builtin_generates
    (task : TaskContext) :
    builtin.Generates task := by
  constructor
  case accepted => exact exists_task_iff
  case written =>
    intro code hCode
    rw [(task_eq_ok_iff.mp hCode).2]
    exact ⟨unlines_codes _ _, rfl, unlines_codes _ _⟩
  case joined =>
    intro front back code hParts hFront hBack hCode
    rw [task_eq_ok_iff] at hCode
    rcases hCode with ⟨hSound, rfl⟩
    rcases hSound.parts hParts with ⟨hFirst, hSecond⟩
    refine
      ⟨_, _, task_eq_ok_iff.mpr ⟨hFirst, rfl⟩,
        task_eq_ok_iff.mpr ⟨hSecond, rfl⟩, ?_⟩
    rw [TaskContext.codes_append hParts]
    constructor
    case declarations => exact unlines_codes_append _
    case registrations => exact unlines_codes_append _
    case initializers =>
      apply initializers_append
      · exact mt List.map_eq_nil_iff.mp hFront
      · exact mt List.map_eq_nil_iff.mp hBack
  case refused =>
    intro error
    exact task_eq_error_iff

/-
  The built-in generators are those that come of registering
  one for each kind, and they go by the elements of a task.
-/
theorem generates_registered :
    (ElementKind.all.foldlM
          (fun generators kind =>
            generators.register kind kind.generator)
          Generators.empty >>=
        Generators.build) =
      .ok builtin ∧
      ∀ task, builtin.Generates task := by
  refine ⟨?_, builtin_generates⟩
  rw [Generators.register_all]
  rfl

end Capabilities

end Componentry
