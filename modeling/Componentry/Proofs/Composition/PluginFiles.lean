import Componentry.Proofs.Composition.Plugins
import Componentry.Proofs.FileTree.Steps

/-
  Names of the files that plugins write.

  The built-in plugins write files whose names have a dot, in
  directories whose names have none.  So no file of theirs is
  needed as a directory by another one, and each of their
  paths is one that a file can have.

  Main declarations:
    * `IsDotted`, `IsDotted.eq_of_isPrefix`
    * `Path.IsFile`
    * `Plugin.NamesFiles`, `Plugin.namesFiles_builtin`
    * `PluginRegistry.isFile_of_mem_sources`
-/

------------------------------------------------------------
-- Names of Files
------------------------------------------------------------

namespace Componentry

/- Names of which the last has a dot, and no other. -/
def IsDotted (names : List String) : Prop :=
  (∃ last ∈ names.getLast?, '.' ∈ last.toList) ∧
    ∀ name ∈ names.dropLast, '.' ∉ name.toList

instance (names : List String) : Decidable (IsDotted names) := by
  unfold IsDotted
  infer_instance

/- None of these goes on behind another one. -/
theorem IsDotted.eq_of_isPrefix
    {first second : List String}
    (hFirst : IsDotted first)
    (hSecond : IsDotted second)
    (hPrefix : first <+: second) :
    first = second := by
  rcases hPrefix with ⟨rest, hRest⟩
  by_cases hMore : rest = []
  · rw [← hRest, hMore, List.append_nil]
  · rcases hFirst.1 with ⟨last, hLast, hDot⟩
    have hMember : last ∈ second.dropLast := by
      rw [← hRest, List.dropLast_append_of_ne_nil hMore]
      exact
        List.mem_append_left _ (List.mem_of_getLast? hLast)
    exact (hSecond.2 last hMember hDot).elim

theorem isDotted_concat
    {front : List String}
    {last : String}
    (hFront : ∀ name ∈ front, '.' ∉ name.toList)
    (hLast : '.' ∈ last.toList) :
    IsDotted (front ++ [last]) := by
  constructor
  · exact ⟨last, by simp, hLast⟩
  · rw [List.dropLast_concat]
    exact hFront

namespace Path

variable {directory path : Path}
variable {names : List String}
variable {name : String}

theorem IsMadeOf.moves_eq
    (hPath : path.IsMadeOf names) :
    path.moves = names := by
  unfold moves
  rw [hPath, List.filterMap_map]
  exact List.filterMap_some

/- A plain name is a path that ends in a step. -/
theorem IsPlainName.endsInStep
    (hName : IsPlainName name) :
    (Path.mk name).EndsInStep := by
  have hPieces :
      Text.pieces (· == '/') name.toList = [name.toList] :=
    Text.pieces_of_not_mem hName.no_slash
  have hSteps : FileTree.steps name = [name] := by
    unfold FileTree.steps Text.splitAt
    rw [hPieces, List.map_singleton, String.ofList_toList]
  apply endsInStep_iff.mpr
  refine ⟨[], name, hSteps, ?_⟩
  simp [FileTree.isIdle, hName.not_empty, hName.not_current]

/- So a file can have it, without a null character. -/
theorem IsPlainName.isFilePath
    (hName : IsPlainName name)
    (hUsable : '\x00' ∉ name.toList) :
    (Path.mk name).IsFilePath where
  usable := isUsable_iff_text.mpr hUsable
  ends := hName.endsInStep

/- The path of a file: its last name, and no other, is dotted. -/
structure IsFile (path : Path) : Prop where
  isFilePath : path.IsFilePath
  made : path.IsMadeOf path.moves
  dotted : IsDotted path.moves

instance (path : Path) : Decidable path.IsFile :=
  decidable_of_iff
    (path.IsFilePath ∧ path.IsMadeOf path.moves ∧
      IsDotted path.moves)
    ⟨fun hFile => ⟨hFile.1, hFile.2.1, hFile.2.2⟩,
      fun hFile =>
        ⟨hFile.isFilePath, hFile.made, hFile.dotted⟩⟩

/- A dotted name in a directory whose names have no dots. -/
theorem IsFile.of_join
    (hDirectory : directory.IsMadeOf names)
    (hNames : ∀ name ∈ names, '.' ∉ name.toList)
    (hName : IsPlainName name)
    (hDot : '.' ∈ name.toList)
    (hUsable :
      directory.isUsable = true ∧ '\x00' ∉ name.toList) :
    (directory.join ⟨name⟩).IsFile := by
  have hMade :
      (directory.join ⟨name⟩).IsMadeOf (names ++ [name]) :=
    hDirectory.join hName.isMadeOf (by simp)
  constructor
  case isFilePath =>
    exact
      (isFilePath_join_iff hName.isMadeOf.isRelative).mpr
        ⟨hUsable.1, hName.isFilePath hUsable.2⟩
  case made => rwa [hMade.moves_eq]
  case dotted =>
    rw [hMade.moves_eq]
    exact isDotted_concat hNames hDot

/- Behind a text that does not end with one, a slash is put. -/
theorem join_eq_slash
    {left right : Path}
    (hLeft : ∃ c ∈ left.text.toList.getLast?, c ≠ '/')
    (hRight : right.isAbsolute = false) :
    left.join right = ⟨left.text ++ "/" ++ right.text⟩ := by
  rcases hLeft with ⟨c, hLast, hSlash⟩
  rw [Option.mem_def] at hLast
  unfold join
  rw [hRight, hLast]
  simp only [Bool.false_eq_true, if_false]

end Path

end Componentry

------------------------------------------------------------
-- Files of Plugins
------------------------------------------------------------

namespace Componentry

/- The paths of the files among contributions. -/
def sourcePaths (made : List Contribution) : List Path :=
  made.filterMap fun contribution =>
    contribution.source?.map (·.1)

/- Everything that a plugin writes is at the path of a file. -/
def Plugin.NamesFiles (plugin : Plugin) : Prop :=
  ∀ kit made,
    plugin.contribute kit = .ok made →
      ∀ path ∈ sourcePaths made, path.IsFile

namespace Plugin

variable {plugin : Plugin}

/- One lemma for plugins that look at the codes of types. -/
theorem namesFiles_of_codes
    {make : Kit → List TypeCode → List Contribution}
    (hContribute :
      ∀ kit,
        plugin.contribute kit =
          typeCodes plugin.name kit >>= fun types =>
            .ok (make kit types))
    (hPaths :
      ∀ kit,
        ∀ path ∈ sourcePaths (make kit (codes kit.exported)),
          path.IsFile) :
    plugin.NamesFiles := by
  intro kit made hMade
  have hIs :=
    ((contribute_eq_ok_iff (hContribute kit)).mp hMade).2
  rw [← hIs]
  exact hPaths kit

/- Plugins may write a file for every type, and some others. -/
theorem isFile_of_mem_append
    {kit : Kit}
    {each : TypeCode → Contribution}
    {others : List Contribution}
    (hEach :
      ∀ name,
        ∀ path ∈ sourcePaths
            [each ⟨name, TypeName.method name⟩],
          path.IsFile)
    (hOthers : ∀ path ∈ sourcePaths others, path.IsFile) :
    ∀ path ∈ sourcePaths
        ((codes kit.exported).map each ++ others),
      path.IsFile := by
  intro path hPath
  unfold sourcePaths at hPath
  rw [List.filterMap_append, List.mem_append] at hPath
  rcases hPath with hType | hOther
  · rcases List.mem_filterMap.mp hType with
      ⟨contribution, hMade, hSource⟩
    rcases List.mem_map.mp hMade with ⟨code, hCode, hIs⟩
    rcases List.mem_map.mp hCode with ⟨name, -, hSame⟩
    apply hEach name
    rw [hSame, hIs]
    exact
      List.mem_filterMap.mpr
        ⟨contribution, List.mem_singleton_self _, hSource⟩
  · exact hOthers path hOther

/- The path of a file that is named after an identifier. -/
theorem isFile_identifier
    {front : String}
    (directory : String)
    (names : List String)
    (name ending : String)
    (hDirectory :
      (Path.mk directory).IsMadeOf names ∧
        (Path.mk directory).isUsable = true)
    (hNames : ∀ name ∈ names, '.' ∉ name.toList)
    (hFront :
      directory ++ "/" = front ∧
        ∃ c ∈ directory.toList.getLast?, c ≠ '/')
    (hEnding :
      '/' ∉ ending.toList ∧ '\x00' ∉ ending.toList ∧
        '.' ∈ ending.toList ∧ 2 < ending.toList.length) :
    (Path.mk
        (front ++ TypeName.method name ++ ending)).IsFile := by
  have hPlain :
      Path.IsPlainName (TypeName.method name ++ ending) :=
    .of_ending (TypeName.not_mem_method (by decide) name)
      hEnding.1 hEnding.2.2.2
  have hDot : '.' ∈ (TypeName.method name ++ ending).toList := by
    rw [String.toList_append]
    exact List.mem_append_right _ hEnding.2.2.1
  have hUsable :
      '\x00' ∉ (TypeName.method name ++ ending).toList := by
    rw [String.toList_append, List.mem_append, not_or]
    exact
      ⟨TypeName.not_mem_method (by decide) name, hEnding.2.1⟩
  have hJoined :=
    Path.IsFile.of_join hDirectory.1 hNames hPlain hDot
      ⟨hDirectory.2, hUsable⟩
  rw [Path.join_eq_slash hFront.2 hPlain.isMadeOf.isRelative]
    at hJoined
  rw [String.append_assoc, ← hFront.1]
  exact hJoined

theorem namesFiles_ros : NamesFiles ros := by
  refine namesFiles_of_codes (fun _ => rfl) fun kit => ?_
  apply isFile_of_mem_append
  · intro name path hPath
    rw [List.mem_singleton.mp hPath]
    exact
      isFile_identifier "transports/ros/msg"
        ["transports", "ros", "msg"] name ".msg"
        (by decide) (by decide)
        ⟨by decide, _, rfl, by decide⟩ (by decide)
  · change
      ∀ path ∈ [Path.mk "transports/ros/Convertions.hpp",
          ⟨Ros.definitionsPath⟩, ⟨Ros.registrationPath⟩],
        path.IsFile
    decide

theorem namesFiles_corba : NamesFiles corba := by
  refine namesFiles_of_codes (fun _ => rfl) fun kit => ?_
  change
    ∀ path ∈ [Path.mk Corba.conversionsPath,
        ⟨Corba.registrationPath⟩],
      path.IsFile
  decide

theorem namesFiles_messageQueue : NamesFiles messageQueue := by
  refine namesFiles_of_codes (fun _ => rfl) fun kit => ?_
  change
    ∀ path ∈ [Path.mk MessageQueue.registrationPath],
      path.IsFile
  decide

theorem namesFiles_typeInfo : NamesFiles typeInfo := by
  refine namesFiles_of_codes (fun _ => rfl) fun kit => ?_
  apply isFile_of_mem_append
  · intro name path hPath
    rw [List.mem_singleton.mp hPath]
    exact
      isFile_identifier "type_info" ["type_info"] name ".cpp"
        (by decide) (by decide)
        ⟨by decide, _, rfl, by decide⟩ (by decide)
  · change
      ∀ path ∈ [Path.mk TypeInfo.registrationPath],
        path.IsFile
    decide

theorem namesFiles_typelib : NamesFiles typelib := by
  refine namesFiles_of_codes (fun _ => rfl) fun kit => ?_
  change
    ∀ path ∈ [Path.mk Typelib.registrationPath],
      path.IsFile
  decide

/- All built-in plugins name files. -/
theorem namesFiles_builtin :
    ∀ plugin ∈ builtin, plugin.NamesFiles := by
  simp only [builtin, List.forall_mem_cons]
  exact
    ⟨namesFiles_ros, namesFiles_corba,
      namesFiles_messageQueue, namesFiles_typeInfo,
      namesFiles_typelib, by simp⟩

end Plugin

namespace PluginRegistry

variable {kit : Kit}

/- Plugins that name files do so in a run. -/
theorem isFile_of_mem_sources
    {registry : PluginRegistry}
    {made : KitContributions}
    {path : Path}
    {text : String}
    (hFiles : ∀ plugin ∈ registry.plugins, plugin.NamesFiles)
    (hRun : registry.run kit = .ok made)
    (hSource : (path, text) ∈ made.sources) :
    path.IsFile := by
  rcases exists_of_mem_sources hRun hSource with
    ⟨-, plugin, hPlugin, contributed, hMade, contribution,
      hMember, hIs⟩
  apply hFiles plugin hPlugin kit contributed hMade
  refine List.mem_filterMap.mpr ⟨contribution, hMember, ?_⟩
  rw [hIs]
  rfl

end PluginRegistry

end Componentry
