import Mathlib.Data.List.Forall2
import Componentry.Composition.Plugin.Basic
import Componentry.Proofs.Answers
import Componentry.Proofs.Paths
import Componentry.Proofs.Text.Layouts

/-
  Runs of plugins.

  A run is a chain over the plugins, and for each plugin a
  chain over what it contributes.  Both chains succeed if all
  of their links do, and both fail as their first link that
  does.  So a run gives what all plugins contribute, in order,
  or the failure of the first plugin that is not accepted.

  Main declarations:
    * `Path.StaysInside`, `Path.isOrdinary_iff_staysInside`
    * `Plugin.IsAccepted`, `Plugin.FailsWith`
    * `PluginRegistry.stamp_eq_ok_iff`
    * `PluginRegistry.stamp_eq_error_iff`
    * `PluginRegistry.runAll_eq_ok_iff`
    * `PluginRegistry.runAll_eq_error_iff`
    * `PluginRegistry.exists_of_mem_sources`
    * `PluginRegistry.RunsInOrder`
    * `PluginRegistry.runsInOrder`
-/

------------------------------------------------------------
-- Paths inside a Directory
------------------------------------------------------------

namespace Componentry

namespace Path

/- A path that is not empty and has names only. -/
def StaysInside (path : Path) : Prop :=
  path.text ≠ "" ∧
    ∀ component ∈ path.components,
      ∃ name, component = .normal name

theorem Component.isNormal_iff
    {component : Component} :
    component.isNormal = true ↔
      ∃ name, component = .normal name := by
  cases component <;> simp [isNormal]

/- A piece in front is a component unless it is empty. -/
theorem firstComponent?_ne_none
    {piece : List Char}
    (hPiece : piece ≠ []) :
    firstComponent? piece ≠ none := by
  unfold firstComponent? Component.ofPiece?
  by_cases hCurrent : piece = ['.']
  · simp [hCurrent]
  · by_cases hParent : piece = ['.', '.']
    · simp [hParent]
    · simp [hPiece, hCurrent, hParent]

/- A path has components unless it is the empty one. -/
theorem components_ne_nil
    {path : Path}
    (hText : path.text ≠ "") :
    path.components ≠ [] := by
  cases hAbsolute : path.isAbsolute with
  | true => simp [components, hAbsolute]
  | false =>
      cases hCs : path.text.toList with
      | nil =>
          exact absurd (String.toList_eq_nil_iff.mp hCs) hText
      | cons c cs =>
          -- The first piece starts with the first character.
          have hFirst : (c == '/') = false := by
            simpa [isAbsolute, hCs] using hAbsolute
          rcases List.exists_cons_of_ne_nil
              (Text.pieces_ne_nil (· == '/') cs) with
            ⟨piece, rest, hPieces⟩
          have hPath :
              path.pieces = (c :: piece) :: rest := by
            simp [pieces, hAbsolute, hCs, Text.pieces, hPieces,
              hFirst, Text.extendFirst]
          have hSome :
              firstComponent? (c :: piece) ≠ none :=
            firstComponent?_ne_none (by simp)
          simp [components, hAbsolute, hPath, hSome]

theorem isOrdinary_iff_staysInside
    {path : Path} :
    path.isOrdinary = true ↔ path.StaysInside := by
  rw [isOrdinary, Bool.and_eq_true, List.all_eq_true]
  simp only [Component.isNormal_iff]
  constructor
  · rintro ⟨hSome, hNames⟩
    refine ⟨?_, hNames⟩
    intro hText
    rcases path with ⟨text⟩
    cases hText
    cases hSome
  · rintro ⟨hText, hNames⟩
    refine ⟨?_, hNames⟩
    simpa using components_ne_nil hText

end Path

end Componentry

------------------------------------------------------------
-- Files and Parts of the Build Description
------------------------------------------------------------

namespace Componentry

namespace Contribution

/- Files stay inside; the paths of others do not matter. -/
def StaysInside (contribution : Contribution) : Prop :=
  contribution.kind = .source → contribution.path.StaysInside

@[simp] theorem source?_source
    (path : Path)
    (text : String) :
    (source path text).source? = some (path, text) :=
  rfl

theorem source?_eq_some_iff
    {contribution : Contribution}
    {file : Path × String} :
    contribution.source? = some file ↔
      contribution.kind = .source ∧
        (contribution.path, contribution.text) = file := by
  unfold source?
  cases contribution.kind with
  | source => simp
  | build => simp

end Contribution

/- The files are the contributions of that kind. -/
theorem KitContributions.mem_sources_iff
    {made : KitContributions}
    {file : Path × String} :
    file ∈ made.sources ↔
      ∃ contribution ∈ made.contributions,
        contribution.kind = .source ∧
          (contribution.path, contribution.text) = file := by
  simp only [sources, List.mem_filterMap,
    Contribution.source?_eq_some_iff]

end Componentry

------------------------------------------------------------
-- Accepted Plugins
------------------------------------------------------------

namespace Componentry

namespace Plugin

/- What a plugin contributes, nothing if it fails. -/
def contributed
    (plugin : Plugin)
    (kit : Kit) :
    List Contribution :=
  (plugin.contribute kit).toOption.getD []

/- What a plugin contributes, with its name on it. -/
def stamped
    (plugin : Plugin)
    (kit : Kit) :
    List Contribution :=
  (plugin.contributed kit).map (·.withPlugin plugin.name)

/- A plugin succeeds, and its files stay inside. -/
def IsAccepted
    (plugin : Plugin)
    (kit : Kit) :
    Prop :=
  ∃ made,
    plugin.contribute kit = .ok made ∧
      ∀ contribution ∈ made, contribution.StaysInside

/- A plugin fails by itself or with its first bad path. -/
inductive FailsWith
    (plugin : Plugin)
    (kit : Kit) :
    ComposeError → Prop where
  | own
      {error : ComposeError}
      (hOwn : plugin.contribute kit = .error error) :
      FailsWith plugin kit error
  | path
      {before after : List Contribution}
      {first : Contribution}
      (hMade :
        plugin.contribute kit =
          .ok (before ++ first :: after))
      (hBefore :
        ∀ contribution ∈ before, contribution.StaysInside)
      (hOutside : ¬ first.StaysInside) :
      FailsWith plugin kit
        (.plugin plugin.name
          ("invalid output path " ++ first.path.text))

theorem contributed_of_ok
    {plugin : Plugin}
    {kit : Kit}
    {made : List Contribution}
    (hMade : plugin.contribute kit = .ok made) :
    plugin.contributed kit = made := by
  rw [contributed, hMade]
  rfl

/- The name does not matter for what is picked. -/
theorem filterMap_stamped
    {α : Type}
    {pick : Contribution → Option α}
    (hPick :
      ∀ contribution plugin,
        pick (contribution.withPlugin plugin) =
          pick contribution)
    {plugin : Plugin}
    {kit : Kit} :
    (plugin.stamped kit).filterMap pick =
      (plugin.contributed kit).filterMap pick := by
  rw [stamped, List.filterMap_map]
  apply List.filterMap_congr
  intro contribution _
  exact hPick contribution plugin.name

end Plugin

end Componentry

------------------------------------------------------------
-- Contributions of One Plugin
------------------------------------------------------------

namespace Componentry

namespace PluginRegistry

variable {plugin : String}
variable {made : List Contribution}

/- Files stay inside exactly if they pass the check. -/
theorem checkPath_eq_ok_iff
    {contribution : Contribution} :
    checkPath plugin contribution = .ok () ↔
      contribution.StaysInside := by
  rw [Contribution.StaysInside,
    ← Path.isOrdinary_iff_staysInside, checkPath]
  cases contribution.kind with
  | build => simp
  | source => simp

theorem checkPath_eq_error_iff
    {contribution : Contribution}
    {error : ComposeError} :
    checkPath plugin contribution = .error error ↔
      ¬ contribution.StaysInside ∧
        error =
          .plugin plugin
            ("invalid output path "
              ++ contribution.path.text) := by
  rw [Contribution.StaysInside,
    ← Path.isOrdinary_iff_staysInside, checkPath]
  cases contribution.kind with
  | build => simp
  | source =>
      cases contribution.path.isOrdinary with
      | true => simp
      | false =>
          simp only [Bool.false_eq_true, if_false,
            Except.error.injEq, forall_const, not_false_eq_true,
            true_and]
          exact eq_comm

/- Stamp one contribution, checking the path of a file. -/
def stampOne
    (plugin : String)
    (contribution : Contribution) :
    Except ComposeError Contribution := do
  checkPath plugin contribution
  .ok (contribution.withPlugin plugin)

theorem stampOne_eq_ok_iff
    (contribution : Contribution)
    (one : Contribution) :
    stampOne plugin contribution = .ok one ↔
      contribution.StaysInside ∧
        one = contribution.withPlugin plugin := by
  simp only [stampOne, bind_check_eq_ok_iff,
    checkPath_eq_ok_iff, Except.ok.injEq]
  rw [eq_comm]

theorem stampOne_eq_error_iff
    {contribution : Contribution}
    {error : ComposeError} :
    stampOne plugin contribution = .error error ↔
      ¬ contribution.StaysInside ∧
        error =
          .plugin plugin
            ("invalid output path "
              ++ contribution.path.text) := by
  simp only [stampOne, bind_eq_error_iff,
    checkPath_eq_error_iff, reduceCtorEq, and_false,
    exists_false, or_false]

/- Contributions are stamped one after the other. -/
theorem stamp_eq_mapM
    (plugin : String)
    (made : List Contribution) :
    stamp plugin made = made.mapM (stampOne plugin) := by
  induction made with
  | nil => rfl
  | cons contribution made ih =>
      rw [List.mapM_cons, ← ih, stamp, stampOne]
      simp only [bind_assoc]
      rfl

/- All are stamped if all files stay inside. -/
theorem stamp_eq_ok_iff
    {stamped : List Contribution} :
    stamp plugin made = .ok stamped ↔
      (∀ contribution ∈ made, contribution.StaysInside) ∧
        stamped = made.map (·.withPlugin plugin) := by
  rw [stamp_eq_mapM]
  exact mapM_eq_ok_iff stampOne_eq_ok_iff

/- Otherwise the first file that does not is the fault. -/
theorem stamp_eq_error_iff
    {error : ComposeError} :
    stamp plugin made = .error error ↔
      ∃ before first after,
        made = before ++ first :: after ∧
          (∀ contribution ∈ before,
            contribution.StaysInside) ∧
          ¬ first.StaysInside ∧
          error =
            .plugin plugin
              ("invalid output path " ++ first.path.text) := by
  have hOk :
      ∀ contribution,
        (∃ one, stampOne plugin contribution = .ok one) ↔
          contribution.StaysInside := by
    simp [stampOne_eq_ok_iff]
  simp only [stamp_eq_mapM, mapM_eq_error_iff, hOk,
    stampOne_eq_error_iff]

end PluginRegistry

end Componentry

------------------------------------------------------------
-- Contributions of All Plugins
------------------------------------------------------------

namespace Componentry

namespace PluginRegistry

variable {kit : Kit}
variable {plugins : List Plugin}

/- Run one plugin and stamp what it contributes. -/
def runOne
    (kit : Kit)
    (plugin : Plugin) :
    Except ComposeError (List Contribution) := do
  let made ← plugin.contribute kit
  stamp plugin.name made

theorem runOne_eq_ok_iff
    (plugin : Plugin)
    (stamped : List Contribution) :
    runOne kit plugin = .ok stamped ↔
      plugin.IsAccepted kit ∧ stamped = plugin.stamped kit := by
  simp only [runOne, bind_eq_ok_iff, stamp_eq_ok_iff]
  constructor
  · rintro ⟨made, hMade, hInside, rfl⟩
    refine ⟨⟨made, hMade, hInside⟩, ?_⟩
    rw [Plugin.stamped, Plugin.contributed_of_ok hMade]
  · rintro ⟨⟨made, hMade, hInside⟩, rfl⟩
    refine ⟨made, hMade, hInside, ?_⟩
    rw [Plugin.stamped, Plugin.contributed_of_ok hMade]

theorem runOne_eq_error_iff
    {plugin : Plugin}
    {error : ComposeError} :
    runOne kit plugin = .error error ↔
      plugin.FailsWith kit error := by
  simp only [runOne, bind_eq_error_iff, stamp_eq_error_iff]
  constructor
  · rintro (hOwn |
      ⟨_, hMade, before, first, after, rfl, hBefore, hOutside,
        rfl⟩)
    · exact .own hOwn
    · exact .path hMade hBefore hOutside
  · intro hFails
    cases hFails with
    | own hOwn => exact Or.inl hOwn
    | path hMade hBefore hOutside =>
        exact
          Or.inr
            ⟨_, hMade, _, _, _, rfl, hBefore, hOutside, rfl⟩

/- Plugins run one after the other. -/
theorem runAll_eq_mapM
    (kit : Kit)
    (plugins : List Plugin) :
    runAll kit plugins =
      plugins.mapM (runOne kit) >>= fun parts =>
        .ok parts.flatten := by
  induction plugins with
  | nil => rfl
  | cons plugin plugins ih =>
      rw [runAll, ih, List.mapM_cons, runOne]
      simp only [bind_assoc]
      rfl

/- A run succeeds if all plugins are accepted. -/
theorem runAll_eq_ok_iff
    {stamped : List Contribution} :
    runAll kit plugins = .ok stamped ↔
      (∀ plugin ∈ plugins, plugin.IsAccepted kit) ∧
        stamped = plugins.flatMap (·.stamped kit) := by
  simp only [runAll_eq_mapM, bind_eq_ok_iff,
    mapM_eq_ok_iff runOne_eq_ok_iff, Except.ok.injEq]
  constructor
  · rintro ⟨_, ⟨hAccepted, rfl⟩, rfl⟩
    exact ⟨hAccepted, rfl⟩
  · rintro ⟨hAccepted, rfl⟩
    exact ⟨_, ⟨hAccepted, rfl⟩, rfl⟩

/- Otherwise it fails as the first plugin that is not. -/
theorem runAll_eq_error_iff
    {error : ComposeError} :
    runAll kit plugins = .error error ↔
      ∃ earlier plugin later,
        plugins = earlier ++ plugin :: later ∧
          (∀ other ∈ earlier, other.IsAccepted kit) ∧
          plugin.FailsWith kit error := by
  have hOk :
      ∀ plugin,
        (∃ stamped, runOne kit plugin = .ok stamped) ↔
          plugin.IsAccepted kit := by
    simp [runOne_eq_ok_iff]
  simp only [runAll_eq_mapM, bind_eq_error_iff,
    mapM_eq_error_iff, hOk, runOne_eq_error_iff,
    reduceCtorEq, and_false, exists_false, or_false]

/- A plugin fails unless it is accepted. -/
theorem exists_failsWith
    {plugin : Plugin}
    (hPlugin : ¬ plugin.IsAccepted kit) :
    ∃ error, plugin.FailsWith kit error := by
  cases hOne : runOne kit plugin with
  | ok stamped =>
      have hAccepted := (runOne_eq_ok_iff _ _).mp hOne
      exact absurd hAccepted.1 hPlugin
  | error error => exact ⟨error, runOne_eq_error_iff.mp hOne⟩

/- Behind a plugin that is not accepted, nothing is run. -/
theorem runAll_eq_of_not_isAccepted
    {plugin : Plugin}
    (hPlugin : ¬ plugin.IsAccepted kit)
    (earlier later others : List Plugin) :
    runAll kit (earlier ++ plugin :: later) =
      runAll kit (earlier ++ plugin :: others) := by
  induction earlier with
  | nil =>
      rcases exists_failsWith hPlugin with ⟨error, hFails⟩
      have hRun :
          ∀ rest,
            runAll kit (plugin :: rest) = .error error := by
        intro rest
        rw [runAll_eq_error_iff]
        exact ⟨[], plugin, rest, rfl, by simp, hFails⟩
      rw [List.nil_append, List.nil_append, hRun, hRun]
  | cons first earlier ih =>
      rw [List.cons_append, List.cons_append, runAll, runAll,
        ih]

end PluginRegistry

end Componentry

------------------------------------------------------------
-- Runs of a Registry
------------------------------------------------------------

namespace Componentry

namespace PluginRegistry

variable {registry : PluginRegistry}
variable {kit : Kit}

theorem run_eq_ok_iff
    {made : KitContributions} :
    registry.run kit = .ok made ↔
      (∀ plugin ∈ registry.plugins, plugin.IsAccepted kit) ∧
        made =
          ⟨kit.name,
            registry.plugins.flatMap (·.stamped kit)⟩ := by
  simp only [run, bind_eq_ok_iff, runAll_eq_ok_iff,
    Except.ok.injEq]
  constructor
  · rintro ⟨_, ⟨hAccepted, rfl⟩, rfl⟩
    exact ⟨hAccepted, rfl⟩
  · rintro ⟨hAccepted, rfl⟩
    exact ⟨_, ⟨hAccepted, rfl⟩, rfl⟩

theorem run_eq_error_iff
    {error : ComposeError} :
    registry.run kit = .error error ↔
      ∃ earlier plugin later,
        registry.plugins = earlier ++ plugin :: later ∧
          (∀ other ∈ earlier, other.IsAccepted kit) ∧
          plugin.FailsWith kit error := by
  simp only [run, bind_eq_error_iff, runAll_eq_error_iff,
    reduceCtorEq, and_false, exists_false, or_false]

/- What is picked from all that plugins contribute. -/
theorem filterMap_flatMap_stamped
    {α : Type}
    {pick : Contribution → Option α}
    (hPick :
      ∀ contribution plugin,
        pick (contribution.withPlugin plugin) =
          pick contribution)
    (plugins : List Plugin) :
    (plugins.flatMap (·.stamped kit)).filterMap pick =
      plugins.flatMap fun plugin =>
        (plugin.contributed kit).filterMap pick := by
  simp only [List.filterMap_flatMap,
    Plugin.filterMap_stamped hPick]

/- A file of a run was contributed, and it stays inside. -/
theorem exists_of_mem_sources
    {made : KitContributions}
    {path : Path}
    {text : String}
    (hRun : registry.run kit = .ok made)
    (hSource : (path, text) ∈ made.sources) :
    path.StaysInside ∧
      ∃ plugin ∈ registry.plugins, ∃ contributed,
        plugin.contribute kit = .ok contributed ∧
          ∃ contribution ∈ contributed,
            contribution.source? = some (path, text) := by
  rcases run_eq_ok_iff.mp hRun with ⟨hAccepted, rfl⟩
  rw [KitContributions.sources,
    filterMap_flatMap_stamped fun _ _ => rfl] at hSource
  rcases List.mem_flatMap.mp hSource with
    ⟨plugin, hPlugin, hFile⟩
  rcases List.mem_filterMap.mp hFile with
    ⟨contribution, hMember, hIs⟩
  rcases hAccepted plugin hPlugin with
    ⟨contributed, hMade, hInside⟩
  rw [Plugin.contributed_of_ok hMade] at hMember
  refine
    ⟨?_, plugin, hPlugin, contributed, hMade, contribution,
      hMember, hIs⟩
  rcases Contribution.source?_eq_some_iff.mp hIs with
    ⟨hKind, hSame⟩
  cases hSame
  exact hInside contribution hMember hKind

/- What runs of plugins give, and how they fail. -/
structure RunsInOrder
    (registry : PluginRegistry)
    (kit : Kit) : Prop where
  -- A run succeeds exactly if all plugins are accepted.
  succeeds :
    (∃ made, registry.run kit = .ok made) ↔
      ∀ plugin ∈ registry.plugins, plugin.IsAccepted kit
  -- It gives what they contribute, in order, as it is but
  -- for the name of the plugin.
  made :
    ∀ made,
      registry.run kit = .ok made →
        made.kit = kit.name ∧
          made.contributions =
            registry.plugins.flatMap fun plugin =>
              (plugin.contributed kit).map
                ({ · with plugin := plugin.name })
  -- It fails as the first plugin that is not accepted.
  fails :
    ∀ error,
      registry.run kit = .error error ↔
        ∃ earlier plugin later,
          registry.plugins = earlier ++ plugin :: later ∧
            (∀ other ∈ earlier, other.IsAccepted kit) ∧
            plugin.FailsWith kit error
  -- The plugins behind that one do not count.
  independent :
    ∀ earlier plugin later,
      registry.plugins = earlier ++ plugin :: later →
      ¬ plugin.IsAccepted kit →
      ∀ others,
        run ⟨earlier ++ plugin :: others⟩ kit =
          registry.run kit
  -- Files are found in the order of their plugins.
  sources :
    ∀ made,
      registry.run kit = .ok made →
        made.sources =
          registry.plugins.flatMap fun plugin =>
            (plugin.contributed kit).filterMap (·.source?)
  -- So are parts of the build description, each ended.
  fragment :
    ∀ made,
      registry.run kit = .ok made →
        ∃ parts,
          List.Forall₂ Text.Terminates
              (registry.plugins.flatMap fun plugin =>
                (plugin.contributed kit).filterMap (·.build?))
              parts ∧
            made.buildFragment = String.join parts

/- Each part of a build description is ended. -/
theorem forall₂_terminates_closed
    (texts : List String) :
    List.Forall₂ Text.Terminates texts
      (texts.map Text.closed) := by
  rw [List.forall₂_map_right_iff, List.forall₂_same]
  intro text _
  exact Text.terminates_closed text

/- Plugins are run in order until one is not accepted. -/
theorem runsInOrder
    (registry : PluginRegistry)
    (kit : Kit) :
    registry.RunsInOrder kit where
  succeeds := by
    simp only [run_eq_ok_iff, exists_and_left, exists_eq,
      and_true]
  made := by
    intro made hRun
    rcases run_eq_ok_iff.mp hRun with ⟨-, rfl⟩
    exact ⟨rfl, rfl⟩
  fails := fun _ => run_eq_error_iff
  independent := by
    intro earlier plugin later hPlugins hPlugin others
    rw [run, run, hPlugins,
      runAll_eq_of_not_isAccepted hPlugin earlier later others]
  sources := by
    intro made hRun
    rcases run_eq_ok_iff.mp hRun with ⟨-, rfl⟩
    exact filterMap_flatMap_stamped (fun _ _ => rfl) _
  fragment := by
    intro made hRun
    rcases run_eq_ok_iff.mp hRun with ⟨-, rfl⟩
    refine ⟨_, forall₂_terminates_closed _, ?_⟩
    rw [KitContributions.buildFragment,
      filterMap_flatMap_stamped fun _ _ => rfl]

end PluginRegistry

end Componentry
