import Componentry.Proofs.Generation.Places

/-
  Which task contexts are generated.

  The built-in generators write code for every element with an
  identifier and a type, so a task context is generated
  exactly if it is sound: its name is an identifier, and its
  elements have types and different identifiers.

  Main declarations:
    * `Element.IsSound`, `TaskContext.IsSound`
    * `task_eq_ok_iff`, `exists_task_iff`
    * `fills_task`
-/

------------------------------------------------------------
-- Identifiers
------------------------------------------------------------

namespace Componentry

/- An identifier is a name of one component. -/
theorem isPlainName_of_isIdentifier
    {name : String}
    (hName : Text.isIdentifier name = true) :
    Path.IsPlainName name := by
  unfold Text.isIdentifier at hName
  cases hText : name.toList with
  | nil => simp [hText] at hName
  | cons c cs =>
      simp only [hText, Bool.and_eq_true, List.all_eq_true]
        at hName
      rcases hName with ⟨hFirst, hRest⟩
      have hDot (other : String)
          (hOther : other.toList.head? = some '.') :
          name ≠ other := by
        rintro rfl
        rw [hText, List.head?_cons, Option.some.injEq]
          at hOther
        rw [hOther] at hFirst
        cases hFirst
      refine
        { not_empty := ?_
          no_slash := ?_
          not_current := hDot "." (by simp)
          not_parent := hDot ".." (by simp) }
      · rintro rfl
        simp at hText
      · rw [hText]
        intro hSlash
        rcases List.mem_cons.mp hSlash with rfl | hSlash
        · cases hFirst
        · cases hRest '/' hSlash

end Componentry

------------------------------------------------------------
-- Sound Task Contexts
------------------------------------------------------------

namespace Componentry

/- An element with an identifier and a type. -/
structure Element.IsSound (element : Element) : Prop where
  named : Text.isIdentifier element.name = true
  typed : Text.isBlankText element.typeName = false

instance (element : Element) : Decidable element.IsSound :=
  decidable_of_iff
    (Text.isIdentifier element.name = true ∧
      Text.isBlankText element.typeName = false)
    ⟨fun ⟨hNamed, hTyped⟩ => ⟨hNamed, hTyped⟩,
      fun hSound => ⟨hSound.named, hSound.typed⟩⟩

/-
  A task context with an identifier, whose elements are sound
  and have different names.
-/
structure TaskContext.IsSound (task : TaskContext) : Prop where
  named : Text.isIdentifier task.name = true
  distinct : (task.elements.map (·.name)).Nodup
  elements : ∀ element ∈ task.elements, element.IsSound

instance (task : TaskContext) : Decidable task.IsSound :=
  decidable_of_iff
    (Text.isIdentifier task.name = true ∧
      (task.elements.map (·.name)).Nodup ∧
      ∀ element ∈ task.elements, element.IsSound)
    ⟨fun ⟨hNamed, hDistinct, hElements⟩ =>
        ⟨hNamed, hDistinct, hElements⟩,
      fun hSound =>
        ⟨hSound.named, hSound.distinct, hSound.elements⟩⟩

/- The codes of the elements, in order. -/
def TaskContext.codes (task : TaskContext) : List ElementCode :=
  task.elements.map fun element =>
    element.kind.code task.name element

namespace Capabilities

/- The built-in generators write code for sound elements. -/
theorem element_eq_ok_iff
    {task : String}
    {element : Element}
    {code : ElementCode} :
    builtin.element task element = .ok code ↔
      element.IsSound ∧
        code = element.kind.code task element := by
  unfold Capabilities.element
  cases hName : Text.isIdentifier element.name with
  | false =>
      simp only [Bool.not_false, if_true, reduceCtorEq,
        false_iff, not_and]
      intro hSound
      rw [hSound.named] at hName
      cases hName
  | true =>
      cases hType : Text.isBlankText element.typeName with
      | true =>
          simp only [Bool.not_true, Bool.false_eq_true,
            if_false, if_true, reduceCtorEq, false_iff,
            not_and]
          intro hSound
          rw [hSound.typed] at hType
          cases hType
      | false =>
          have hSound : element.IsSound := ⟨hName, hType⟩
          simp only [Bool.not_true, Bool.false_eq_true,
            if_false, hSound, true_and, builtin,
            ElementKind.generator, Except.ok.injEq, eq_comm]

/- Elements are accepted one by one, none of them twice. -/
theorem elements_eq_ok_iff
    {task : String}
    {seen : List String}
    {elements : List Element}
    {codes : List ElementCode} :
    builtin.elements task seen elements = .ok codes ↔
      AreNew seen (elements.map (·.name)) ∧
        (∀ element ∈ elements, element.IsSound) ∧
        codes =
          elements.map fun element =>
            element.kind.code task element := by
  induction elements generalizing seen codes with
  | nil =>
      simp [Capabilities.elements, areNew_nil, eq_comm]
  | cons element elements ih =>
      rw [List.map_cons, areNew_cons_iff,
        List.forall_mem_cons, List.map_cons]
      unfold Capabilities.elements
      by_cases hSeen : element.name ∈ seen
      · rw [if_pos (List.contains_iff_mem.mpr hSeen)]
        simp [hSeen]
      · rw [if_neg (mt List.contains_iff_mem.mp hSeen)]
        simp only [bind_eq_ok_iff, element_eq_ok_iff, ih,
          hSeen, not_false_eq_true, true_and,
          Except.ok.injEq]
        constructor
        · rintro
            ⟨_, ⟨hElement, rfl⟩, _, ⟨hNew, hRest, rfl⟩, rfl⟩
          exact ⟨hNew, ⟨hElement, hRest⟩, rfl⟩
        · rintro ⟨hNew, ⟨hElement, hRest⟩, rfl⟩
          exact
            ⟨_, ⟨hElement, rfl⟩, _, ⟨hNew, hRest, rfl⟩, rfl⟩

/-
  The built-in generators accept every sound task context, and
  put the codes of its elements together.
-/
theorem task_eq_ok_iff
    {task : TaskContext}
    {code : TaskCode} :
    builtin.task task = .ok code ↔
      task.IsSound ∧ code = assemble task.codes := by
  unfold Capabilities.task
  cases hName : Text.isIdentifier task.name with
  | false =>
      simp only [Bool.not_false, if_true, reduceCtorEq,
        false_iff, not_and]
      intro hSound
      rw [hSound.named] at hName
      cases hName
  | true =>
      simp only [Bool.not_true, Bool.false_eq_true, if_false,
        bind_eq_ok_iff, elements_eq_ok_iff, areNew_iff_nodup,
        Except.ok.injEq]
      constructor
      · rintro ⟨_, ⟨hDistinct, hSound, rfl⟩, rfl⟩
        exact ⟨⟨hName, hDistinct, hSound⟩, rfl⟩
      · rintro ⟨hSound, rfl⟩
        exact
          ⟨_, ⟨hSound.distinct, hSound.elements, rfl⟩, rfl⟩

theorem exists_task_iff
    {task : TaskContext} :
    (∃ code, builtin.task task = .ok code) ↔
      task.IsSound := by
  simp only [task_eq_ok_iff, exists_and_left, exists_eq,
    and_true]

end Capabilities

end Componentry

------------------------------------------------------------
-- Files of Task Contexts
------------------------------------------------------------

namespace Componentry

/- The files of a task context, below its place. -/
def taskRelative : List (List String) :=
  [["declarations.fragment"],
   ["initializers.fragment"],
   ["registrations.fragment"]]

theorem components_taskFiles
    {name : String}
    {code : TaskCode}
    (hName : Path.IsPlainName name) :
    (Run.taskFiles name code).map (·.1.components) =
      taskRelative.map (below "tasks" name) := by
  have hKind : Path.IsPlainName "tasks" := by
    constructor <;> simp
  have hDirectory := directory_isMadeOf hKind hName
  have hFragment (file : String) (hFile : '/' ∉ file.toList) :
      (Run.fragmentPath
          ((Path.mk "tasks").join ⟨name⟩) file).components =
        below "tasks" name [file ++ ".fragment"] :=
    fragmentPath_isMadeOf hDirectory hFile
  simp only [Run.taskFiles, List.map_cons, List.map_nil,
    taskRelative]
  rw [hFragment _ (by simp), hFragment _ (by simp),
    hFragment _ (by simp)]
  rfl

/- A sound task context fills its place. -/
theorem fills_task
    (task : TaskContext) :
    Fills (Run.task .builtin) "tasks" TaskContext.name
      TaskContext.IsSound task := by
  have hPlain
      {code : TaskCode}
      (hCode : Capabilities.builtin.task task = .ok code) :
      Path.IsPlainName task.name :=
    isPlainName_of_isIdentifier
      (Capabilities.exists_task_iff.mp ⟨code, hCode⟩).named
  refine
    fills_of_files
      (fun files =>
        ∃ code, Capabilities.builtin.task task = .ok code ∧
          Run.taskFiles task.name code = files)
      id ?_ (fun _ => rfl) ?_ ?_
  · intro artifacts next
    simp only [Run.task, bind_eq_ok_iff, mapError_eq_ok_iff,
      id_eq, exists_eq_right]
    constructor
    · rintro ⟨code, hCode, hAdd⟩
      exact ⟨_, ⟨code, hCode, rfl⟩, hAdd⟩
    · rintro ⟨_, ⟨code, hCode, rfl⟩, hAdd⟩
      exact ⟨code, hCode, hAdd⟩
  · rintro _ ⟨code, hCode, rfl⟩ file hFile
    exact
      place_prefix_of_map_eq
        (components_taskFiles (hPlain hCode)) hFile
  · rw [← Capabilities.exists_task_iff]
    constructor
    · rintro ⟨_, ⟨code, hCode, -⟩, -⟩
      exact ⟨code, hCode⟩
    · rintro ⟨code, hCode⟩
      refine ⟨_, ⟨code, hCode, rfl⟩, ?_⟩
      rw [components_taskFiles (hPlain hCode),
        nodup_map_below_iff]
      decide

end Componentry
