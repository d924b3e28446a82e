import Componentry.Proofs.Composition.PluginFiles
import Componentry.Proofs.Text.Layouts

/-
  Build descriptions and the files they list.

  A built-in plugin writes its files and, apart from them, a
  build description that lists files on indented lines.  The
  lines are told apart by how they start, whatever the name of
  the typekit is, as long as it is on one line.  What is
  listed are the files to compile among those written, in
  their order.

  Main declarations:
    * `cppPaths`, `ListsFiles`
    * `Plugin.linesBehind_library`
    * `Plugin.listsGenerated_of_codes`
    * `Plugin.listsGenerated`
-/

------------------------------------------------------------
-- Listed Files
------------------------------------------------------------

namespace Componentry

/- A file to compile, by the end of its path. -/
def isCpp (path : String) : Bool :=
  ".cpp".toList.isSuffixOf path.toList

/- The paths of the files to compile among contributions. -/
def cppPaths (made : List Contribution) : List String :=
  ((sourcePaths made).map (·.text)).filter isCpp

/-
  Among contributions there is one build description, and the
  files to compile are what is listed there.
-/
def ListsFiles (made : List Contribution) : Prop :=
  ∃ fragment,
    made.filterMap (·.build?) = [fragment] ∧
      Text.linesBehind "    " fragment = cppPaths made

theorem isCpp_append
    (front : String) :
    isCpp (front ++ ".cpp") = true := by
  rw [isCpp, List.isSuffixOf_iff_suffix, String.toList_append]
  exact List.suffix_append _ _

theorem cppPaths_append
    (made others : List Contribution) :
    cppPaths (made ++ others) =
      cppPaths made ++ cppPaths others := by
  unfold cppPaths sourcePaths
  rw [List.filterMap_append, List.map_append,
    List.filter_append]

/- One file for each of several things. -/
theorem cppPaths_map
    {α : Type}
    (things : List α)
    (path : α → Path)
    (text : α → String) :
    cppPaths
        (things.map fun thing =>
          .source (path thing) (text thing)) =
      (things.map fun thing => (path thing).text).filter
        isCpp := by
  unfold cppPaths sourcePaths
  rw [List.filterMap_map]
  simp only [Function.comp_def, Contribution.source?_source,
    Option.map_some, List.filterMap_eq_map', List.map_map]

theorem build?_map
    {α : Type}
    (things : List α)
    (path : α → Path)
    (text : α → String) :
    (things.map fun thing =>
        Contribution.source (path thing) (text thing)).filterMap
          (·.build?) = [] := by
  rw [List.filterMap_map, List.filterMap_eq_nil_iff]
  intro thing _
  rfl

namespace Plugin

variable {kit : Kit}

/- A build description lists the files that it is given. -/
theorem linesBehind_library
    {transport : String}
    {sources : List String}
    (hName : '\n' ∉ kit.name.toList)
    (hTransport : '\n' ∉ transport.toList)
    (hSources :
      ∀ source ∈ sources,
        Text.IsLine source ∧ source ≠ "") :
    ∃ fragment,
      transportLibrary kit transport sources =
          .build fragment ∧
        Text.linesBehind "    " fragment = sources := by
  refine ⟨_, rfl, ?_⟩
  have hOther :
      ∀ line : String,
        line.toList.head? ≠ some ' ' →
          Text.behind? "    " line = none := by
    intro line hLine
    exact Text.behind?_eq_none (by simp) hLine
  rw [Text.linesBehind_unlines]
  · simp only [List.filterMap_append, List.filterMap_cons,
      List.filterMap_nil, Text.filterMap_behind?_map]
    rw [hOther, hOther, hOther, hOther, hOther]
    all_goals simp
  · simp only [List.forall_mem_append, List.forall_mem_cons,
      List.forall_mem_map]
    have hListed :
        ∀ source ∈ sources, Text.IsLine ("    " ++ source) := by
      intro source hSource
      exact .append (by simp) (hSources source hSource)
    refine
      ⟨⟨⟨.append ?_ ?_, .append ?_ ?_, by simp⟩, hListed⟩,
        by decide, .append ?_ ?_, .append ?_ ?_, by simp⟩
    all_goals simp [Text.isLine_iff, hName, hTransport]

/- Files, and behind them a description that lists them. -/
theorem listsFiles_of_files
    {files : List Contribution}
    {transport : String}
    {sources : List String}
    (hName : '\n' ∉ kit.name.toList)
    (hTransport : '\n' ∉ transport.toList)
    (hFiles : files.filterMap (·.build?) = [])
    (hSources : cppPaths files = sources)
    (hLines :
      ∀ source ∈ sources,
        Text.IsLine source ∧ source ≠ "") :
    ListsFiles
      (files ++ [transportLibrary kit transport sources]) := by
  rcases linesBehind_library hName hTransport hLines with
    ⟨fragment, hFragment, hListed⟩
  refine ⟨fragment, ?_, ?_⟩
  · rw [List.filterMap_append, hFiles, hFragment]
    rfl
  · rw [cppPaths_append, hSources, hListed, hFragment]
    exact (List.append_nil sources).symm

/- A message is not a file to compile. -/
theorem not_isCpp_message
    (type : TypeCode) :
    ¬ isCpp (Ros.messagePath type).text = true := by
  rw [isCpp, List.isSuffixOf_iff_suffix]
  rintro ⟨before, hText⟩
  have hMessage :
      (Ros.messagePath type).text.toList =
        ("transports/ros/msg/" ++ type.identifier).toList ++
          ".msg".toList :=
    String.toList_append
  rw [hMessage] at hText
  have hLength :
      ".cpp".toList.length = ".msg".toList.length := by
    simp
  have hEnding := (List.append_inj' hText hLength).2
  simp at hEnding

/- A path that is named after an identifier is one line. -/
theorem isLine_factoryPath
    (name : String) :
    Text.IsLine
        (TypeInfo.factoryPath ⟨name, TypeName.method name⟩) ∧
      TypeInfo.factoryPath ⟨name, TypeName.method name⟩ ≠
        "" := by
  have hBreak : '\n' ∉ (TypeName.method name).toList :=
    TypeName.not_mem_method (by decide) name
  constructor
  · exact .append (by simp [hBreak]) (by decide)
  · simp [TypeInfo.factoryPath]

end Plugin

end Componentry

------------------------------------------------------------
-- Built-in Plugins
------------------------------------------------------------

namespace Componentry

namespace Plugin

variable {kit : Kit}

/- A plugin succeeds, and what it builds is what it writes. -/
def ListsGenerated (kit : Kit) (plugin : Plugin) : Prop :=
  ∃ made,
    plugin.contribute kit = .ok made ∧ ListsFiles made

/- One lemma for plugins that look at the codes of types. -/
theorem listsGenerated_of_codes
    {plugin : Plugin}
    (files : List TypeCode → List Contribution)
    (sources : List TypeCode → List String)
    (hContribute :
      plugin.contribute kit =
        typeCodes plugin.name kit >>= fun types =>
          .ok
            (files types ++
              [transportLibrary kit plugin.name
                (sources types)]))
    (hFiles :
      ListsFiles
        (files (codes kit.exported) ++
          [transportLibrary kit plugin.name
            (sources (codes kit.exported))]))
    (hNameable : kit.IsNameable) :
    plugin.ListsGenerated kit :=
  ⟨_, (contribute_eq_ok_iff hContribute).mpr ⟨hNameable, rfl⟩,
    hFiles⟩

section Builtin

variable (hName : '\n' ∉ kit.name.toList)
variable (hNameable : kit.IsNameable)

include hName hNameable

/- Another one for those whose files have fixed paths. -/
theorem listsGenerated_of_paths
    {plugin : Plugin}
    (files : List TypeCode → List Contribution)
    (paths : List String)
    (hContribute :
      plugin.contribute kit =
        typeCodes plugin.name kit >>= fun types =>
          .ok
            (files types ++
              [transportLibrary kit plugin.name paths]))
    (hPlugin : '\n' ∉ plugin.name.toList)
    (hFiles :
      ∀ types,
        (files types).filterMap (·.build?) = [] ∧
          (sourcePaths (files types)).map (·.text) = paths)
    (hPaths :
      paths.filter isCpp = paths ∧
        ∀ path ∈ paths, Text.IsLine path ∧ path ≠ "") :
    plugin.ListsGenerated kit := by
  apply
    listsGenerated_of_codes files (fun _ => paths)
      hContribute ?_ hNameable
  rcases hFiles (codes kit.exported) with ⟨hBuild, hSources⟩
  apply listsFiles_of_files hName hPlugin hBuild
  · rw [cppPaths, hSources, hPaths.1]
  · exact hPaths.2

theorem listsGenerated_corba : corba.ListsGenerated kit := by
  apply
    listsGenerated_of_paths hName hNameable
      (fun types =>
        [Corba.conversions kit types,
         Corba.registration kit types])
      [Corba.conversionsPath, Corba.registrationPath] rfl
  · simp [corba]
  · exact fun _ => ⟨rfl, rfl⟩
  · decide

theorem listsGenerated_messageQueue :
    messageQueue.ListsGenerated kit := by
  apply
    listsGenerated_of_paths hName hNameable
      (fun types => [MessageQueue.registration kit types])
      [MessageQueue.registrationPath] rfl
  · simp [messageQueue]
  · exact fun _ => ⟨rfl, rfl⟩
  · decide

theorem listsGenerated_typelib :
    typelib.ListsGenerated kit := by
  apply
    listsGenerated_of_paths hName hNameable
      (fun types => [Typelib.registration kit types])
      [Typelib.registrationPath] rfl
  · simp [typelib]
  · exact fun _ => ⟨rfl, rfl⟩
  · decide

/- Messages are written, but they are not compiled. -/
theorem listsGenerated_ros : ros.ListsGenerated kit := by
  have hMessages :
      cppPaths ((codes kit.exported).map Ros.message) = [] := by
    unfold Ros.message
    rw [cppPaths_map, List.filter_eq_nil_iff,
      List.forall_mem_map]
    intro code _
    exact not_isCpp_message code
  apply
    listsGenerated_of_codes
      (fun types =>
        types.map Ros.message ++
          [Ros.header kit types, Ros.definitions kit types,
           Ros.registration kit types])
      (fun _ => [Ros.definitionsPath, Ros.registrationPath])
      ?_ ?_ hNameable
  · simp only [ros, List.append_assoc, List.cons_append,
      List.nil_append]
  apply listsFiles_of_files hName (by simp [ros])
  · rw [List.filterMap_append]
    unfold Ros.message
    rw [build?_map]
    rfl
  · rw [cppPaths_append, hMessages, List.nil_append]
    change
      ["transports/ros/Convertions.hpp", Ros.definitionsPath,
        Ros.registrationPath].filter isCpp = _
    decide
  · decide

/- The file of each type is compiled. -/
theorem listsGenerated_typeInfo :
    typeInfo.ListsGenerated kit := by
  have hFactories :
      cppPaths
          ((codes kit.exported).map (TypeInfo.factory kit)) =
        (codes kit.exported).map TypeInfo.factoryPath := by
    unfold TypeInfo.factory
    rw [cppPaths_map, List.filter_eq_self, List.forall_mem_map]
    intro code _
    exact isCpp_append _
  apply
    listsGenerated_of_codes
      (fun types =>
        types.map (TypeInfo.factory kit) ++
          [TypeInfo.registration kit types])
      (fun types =>
        types.map TypeInfo.factoryPath ++
          [TypeInfo.registrationPath])
      ?_ ?_ hNameable
  · simp only [typeInfo, List.append_assoc, List.cons_append,
      List.nil_append]
  apply listsFiles_of_files hName (by simp [typeInfo])
  · rw [List.filterMap_append]
    unfold TypeInfo.factory
    rw [build?_map]
    rfl
  · rw [cppPaths_append, hFactories]
    congr 1
    change [TypeInfo.registrationPath].filter isCpp = _
    decide
  · rw [List.forall_mem_append, List.forall_mem_map, codes,
      List.forall_mem_map]
    constructor
    · intro name _
      exact isLine_factoryPath name
    · decide

end Builtin

/-
  What a built-in plugin lists to be compiled is what it
  writes to be compiled.
-/
theorem listsGenerated
    (hName : '\n' ∉ kit.name.toList)
    (hNameable : kit.IsNameable) :
    ∀ plugin ∈ builtin,
      ∃ made fragment,
        plugin.contribute kit = .ok made ∧
          made.filterMap (·.build?) = [fragment] ∧
          Text.linesBehind "    " fragment = cppPaths made := by
  have hAll :
      ∀ plugin ∈ builtin, plugin.ListsGenerated kit := by
    simp only [builtin, List.forall_mem_cons]
    exact
      ⟨listsGenerated_ros hName hNameable,
        listsGenerated_corba hName hNameable,
        listsGenerated_messageQueue hName hNameable,
        listsGenerated_typeInfo hName hNameable,
        listsGenerated_typelib hName hNameable, by simp⟩
  intro plugin hPlugin
  rcases hAll plugin hPlugin with
    ⟨made, hMade, fragment, hFragment, hListed⟩
  exact ⟨made, fragment, hMade, hFragment, hListed⟩

/- A typekit that exports two types and keeps one. -/
def samplePair : Kit where
  name := "base"
  project := "base"
  types :=
    [⟨"/base/Time", true⟩, ⟨"/base/Buffer", false⟩,
      ⟨"/std/vector</double>", true⟩]

theorem samplePair_listsGenerated :
    '\n' ∉ samplePair.name.toList ∧
      samplePair.IsNameable ∧
      typeInfo ∈ builtin ∧
      ∃ made fragment,
        typeInfo.contribute samplePair = .ok made ∧
          made.filterMap (·.build?) = [fragment] ∧
          Text.linesBehind "    " fragment = cppPaths made ∧
          cppPaths made =
            ["type_info/base_Time.cpp",
              "type_info/std_vector_double.cpp",
              "type_info/Registration.cpp"] := by
  have hName : '\n' ∉ samplePair.name.toList := by
    decide
  have hNameable : samplePair.IsNameable := by
    unfold Kit.IsNameable
    decide
  have hMember : typeInfo ∈ builtin := by
    simp [builtin]
  have hPaths :
      (typeInfo.contribute samplePair).map cppPaths =
        .ok
          ["type_info/base_Time.cpp",
            "type_info/std_vector_double.cpp",
            "type_info/Registration.cpp"] := by
    decide
  rcases listsGenerated hName hNameable typeInfo hMember with
    ⟨made, fragment, hMade, hFragment, hListed⟩
  rw [hMade] at hPaths
  exact
    ⟨hName, hNameable, hMember, made, fragment, hMade,
      hFragment, hListed, Except.ok.inj hPaths⟩

end Plugin

end Componentry
