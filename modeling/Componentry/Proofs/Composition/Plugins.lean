import Mathlib.Data.List.Nodup
import Componentry.Composition.Extensions
import Componentry.Proofs.Composition.PluginRuns

/-
  What the built-in plugins write.

  Every built-in plugin derives an identifier for each of the
  exported types; it fails only if there is none.  Apart from
  that it writes files at fixed paths, and at most one file
  for each identifier.

  Main declarations:
    * `Kit.identifiers`, `Kit.IsNameable`
    * `Plugin.typeCodes_eq_ok_iff`
    * `AreAt`, `Plugin.Writes`
    * `Plugin.contribute_eq_ok_iff`
    * `Plugin.writes_builtin`, `Kit.places`
    * `PluginRegistry.exists_run_builtin_iff`
    * `PluginRegistry.components_sources`
    * `Kit.nodup_places_iff`
-/

------------------------------------------------------------
-- Identifiers of Types
------------------------------------------------------------

namespace Componentry

/- The characters of joined words are theirs and the joint. -/
theorem mem_intercalate
    {joint : List Char}
    {words : List (List Char)}
    {c : Char}
    (hMember : c ∈ joint.intercalate words) :
    c ∈ joint ∨ ∃ word ∈ words, c ∈ word := by
  induction words with
  | nil => simp [List.intercalate] at hMember
  | cons word words ih =>
      cases words with
      | nil =>
          rw [List.intercalate_singleton] at hMember
          exact Or.inr ⟨word, List.mem_cons_self, hMember⟩
      | cons next words =>
          rw [List.intercalate_cons_cons, List.mem_append,
            List.mem_append] at hMember
          rcases hMember with (hWord | hJoint) | hRest
          · exact Or.inr ⟨word, List.mem_cons_self, hWord⟩
          · exact Or.inl hJoint
          · rcases ih hRest with hJoint | ⟨other, hOther, hIn⟩
            · exact Or.inl hJoint
            · exact
                Or.inr
                  ⟨other, List.mem_cons_of_mem _ hOther, hIn⟩

/- The identifier of a type has characters of names only. -/
theorem TypeName.isNameChar_of_mem_method
    {name : String}
    {c : Char}
    (hMember : c ∈ (method name).toList) :
    Text.isNameChar c = true := by
  rw [method, String.toList_intercalate] at hMember
  rcases mem_intercalate hMember with
    hJoint | ⟨_, hWord, hIn⟩
  · rw [show c = '_' by simpa using hJoint]
    rfl
  · simp only [words, List.map_map, List.mem_map,
      List.mem_filter, Function.comp_apply,
      String.toList_ofList] at hWord
    rcases hWord with ⟨piece, ⟨hPiece, -⟩, rfl⟩
    have hSeparator :=
      Text.not_separator_of_mem_pieces hPiece c hIn
    rw [Bool.not_eq_false'] at hSeparator
    rw [Text.isNameChar, hSeparator, Bool.true_or]

/- So it has no slash, no colon and no line feed. -/
theorem TypeName.not_mem_method
    {c : Char}
    (hChar : Text.isNameChar c = false)
    (name : String) :
    c ∉ (method name).toList := by
  intro hMember
  rw [isNameChar_of_mem_method hMember] at hChar
  cases hChar

namespace Kit

/- The identifiers of the exported types, in order. -/
def identifiers (kit : Kit) : List String :=
  kit.exported.map TypeName.method

/- Every exported type has an identifier. -/
def IsNameable (kit : Kit) : Prop :=
  "" ∉ kit.identifiers

end Kit

namespace Plugin

theorem typeCode_eq_ok_iff
    {plugin name : String}
    {code : TypeCode} :
    typeCode plugin name = .ok code ↔
      TypeName.method name ≠ "" ∧
        code = ⟨name, TypeName.method name⟩ := by
  unfold typeCode
  by_cases hEmpty : (TypeName.method name).isEmpty = true
  · have hName := String.isEmpty_iff.mp hEmpty
    simp [hName]
  · have hName : TypeName.method name ≠ "" := by
      rwa [ne_eq, ← String.isEmpty_iff]
    simp [hEmpty, hName, eq_comm]

/- The codes of types with identifiers. -/
def codes (names : List String) : List TypeCode :=
  names.map fun name => ⟨name, TypeName.method name⟩

/- All plugins derive the same codes, or none does. -/
theorem typeCodes_eq_ok_iff
    {plugin : String}
    {kit : Kit}
    {types : List TypeCode} :
    typeCodes plugin kit = .ok types ↔
      kit.IsNameable ∧ types = codes kit.exported := by
  have hNameable :
      kit.IsNameable ↔
        ∀ name ∈ kit.exported, TypeName.method name ≠ "" := by
    simp [Kit.IsNameable, Kit.identifiers]
  rw [typeCodes, hNameable]
  exact mapM_eq_ok_iff fun _ _ => typeCode_eq_ok_iff

end Plugin

end Componentry

------------------------------------------------------------
-- Files among Contributions
------------------------------------------------------------

namespace Componentry

/-
  Contributions whose files, in order, are at the places that
  names make up.
-/
def AreAt
    (made : List Contribution)
    (relative : List (List String)) : Prop :=
  (made.filterMap (·.source?)).map (·.1.components) =
    relative.map (List.map .normal)

namespace AreAt

variable {made others : List Contribution}
variable {relative further : List (List String)}

theorem nil : AreAt [] [] :=
  rfl

theorem source
    {path : Path}
    {text : String}
    {names : List String}
    (hPath : path.IsMadeOf names)
    (hMade : AreAt made relative) :
    AreAt (.source path text :: made) (names :: relative) :=
  congrArg₂ List.cons hPath hMade

theorem build
    {text : String}
    (hMade : AreAt made relative) :
    AreAt (.build text :: made) relative :=
  hMade

theorem append
    (hMade : AreAt made relative)
    (hOthers : AreAt others further) :
    AreAt (made ++ others) (relative ++ further) := by
  unfold AreAt
  rw [List.filterMap_append, List.map_append, List.map_append,
    hMade, hOthers]

/- A plugin's name does not move its files. -/
theorem stamped
    {plugin : Plugin}
    {kit : Kit}
    (hMade : AreAt (plugin.contributed kit) relative) :
    AreAt (plugin.stamped kit) relative := by
  rw [AreAt, Plugin.filterMap_stamped fun _ _ => rfl]
  exact hMade

/- One file for each of several things. -/
theorem map
    {α : Type}
    {things : List α}
    {path : α → Path}
    {text : α → String}
    {names : α → List String}
    (hPath : ∀ thing, (path thing).IsMadeOf (names thing)) :
    AreAt
      (things.map fun thing =>
        .source (path thing) (text thing))
      (things.map names) := by
  induction things with
  | nil => exact nil
  | cons thing things ih => exact source (hPath thing) ih

end AreAt

end Componentry

------------------------------------------------------------
-- Plugins
------------------------------------------------------------

namespace Componentry

/-
  A plugin writes files at some places below the directory of
  a typekit, provided that the types have identifiers.
-/
structure Plugin.Writes
    (kit : Kit)
    (plugin : Plugin)
    (relative : List (List String)) : Prop where
  succeeds :
    (∃ made, plugin.contribute kit = .ok made) ↔
      kit.IsNameable
  written :
    ∀ made, plugin.contribute kit = .ok made →
      AreAt made relative
  below : [] ∉ relative

namespace Plugin

variable {kit : Kit}

/-
  A plugin that goes by the codes of types succeeds if there
  are codes, with what it makes of them.
-/
theorem contribute_eq_ok_iff
    {plugin : Plugin}
    {make : List TypeCode → List Contribution}
    (hContribute :
      plugin.contribute kit =
        typeCodes plugin.name kit >>= fun types =>
          .ok (make types))
    {made : List Contribution} :
    plugin.contribute kit = .ok made ↔
      kit.IsNameable ∧ make (codes kit.exported) = made := by
  simp only [hContribute, bind_eq_ok_iff,
    typeCodes_eq_ok_iff, Except.ok.injEq]
  constructor
  · rintro ⟨_, ⟨hNameable, rfl⟩, rfl⟩
    exact ⟨hNameable, rfl⟩
  · rintro ⟨hNameable, rfl⟩
    exact ⟨_, ⟨hNameable, rfl⟩, rfl⟩

/- It writes the files among its contributions. -/
theorem writes_of_codes
    {plugin : Plugin}
    {relative : List (List String)}
    {make : List TypeCode → List Contribution}
    (hContribute :
      plugin.contribute kit =
        typeCodes plugin.name kit >>= fun types =>
          .ok (make types))
    (hWritten : AreAt (make (codes kit.exported)) relative)
    (hBelow : [] ∉ relative) :
    Writes kit plugin relative := by
  refine
    { succeeds := ?_
      written := ?_
      below := hBelow }
  · simp only [contribute_eq_ok_iff hContribute,
      exists_and_left, exists_eq', and_true]
  · intro made hMember
    have hMade :=
      ((contribute_eq_ok_iff hContribute).mp hMember).2
    rw [← hMade]
    exact hWritten

/- The place of a file that is named after an identifier. -/
theorem isMadeOf_identifier
    {directory text : String}
    {names : List String}
    (name : String)
    (ending : String)
    (hDirectory : (Path.mk directory).IsMadeOf names)
    (hNames : names ≠ [])
    (hText : directory ++ "/" = text)
    (hEnding : '/' ∉ ending.toList)
    (hLong : 2 < ending.toList.length) :
    (Path.mk
        (text ++ TypeName.method name ++ ending)).IsMadeOf
      (names ++ [TypeName.method name ++ ending]) := by
  have hName :
      Path.IsPlainName (TypeName.method name ++ ending) :=
    .of_ending (TypeName.not_mem_method (by decide) name)
      hEnding hLong
  rw [String.append_assoc, ← hText]
  exact hDirectory.slash hNames hName

/- The place of the message of a type. -/
def messagePlace (identifier : String) : List String :=
  ["transports", "ros", "msg", identifier ++ ".msg"]

/- The place of the file that describes a type. -/
def factoryPlace (identifier : String) : List String :=
  ["type_info", identifier ++ ".cpp"]

theorem isMadeOf_messagePath
    (name : String) :
    (Ros.messagePath ⟨name, TypeName.method name⟩).IsMadeOf
      (messagePlace (TypeName.method name)) := by
  have hDirectory :
      (Path.mk "transports/ros/msg").IsMadeOf
        ["transports", "ros", "msg"] := by
    decide
  exact
    isMadeOf_identifier name ".msg" hDirectory (by simp)
      (by decide) (by simp) (by simp)

theorem isMadeOf_factoryPath
    (name : String) :
    (Path.mk
        (TypeInfo.factoryPath
          ⟨name, TypeName.method name⟩)).IsMadeOf
      (factoryPlace (TypeName.method name)) := by
  have hDirectory :
      (Path.mk "type_info").IsMadeOf ["type_info"] := by
    decide
  exact
    isMadeOf_identifier name ".cpp" hDirectory (by simp)
      (by decide) (by simp) (by simp)

/- The places that each built-in plugin writes to. -/
def rosPlaces (kit : Kit) : List (List String) :=
  kit.identifiers.map messagePlace
    ++ [["transports", "ros", "Convertions.hpp"],
        ["transports", "ros", "Convertions.cpp"],
        ["transports", "ros", "TransportPlugin.cpp"]]

def corbaPlaces : List (List String) :=
  [["transports", "corba", "Convertions.cpp"],
   ["transports", "corba", "TransportPlugin.cpp"]]

def messageQueuePlaces : List (List String) :=
  [["transports", "mqueue", "TransportPlugin.cpp"]]

def typeInfoPlaces (kit : Kit) : List (List String) :=
  kit.identifiers.map factoryPlace
    ++ [["type_info", "Registration.cpp"]]

def typelibPlaces : List (List String) :=
  [["transports", "typelib", "TransportPlugin.cpp"]]

theorem writes_ros : Writes kit ros (rosPlaces kit) := by
  refine
    writes_of_codes rfl ?_ (by simp [rosPlaces, messagePlace])
  have hMessages :
      AreAt ((codes kit.exported).map Ros.message)
        (kit.identifiers.map messagePlace) := by
    rw [codes, List.map_map, Kit.identifiers, List.map_map]
    exact .map isMadeOf_messagePath
  refine hMessages.append ?_
  refine .source (by decide) ?_
  refine .source (by decide) ?_
  refine .source (by decide) ?_
  exact .build .nil

theorem writes_corba : Writes kit corba corbaPlaces := by
  refine writes_of_codes rfl ?_ (by decide)
  refine .source (by decide) ?_
  refine .source (by decide) ?_
  exact .build .nil

theorem writes_messageQueue :
    Writes kit messageQueue messageQueuePlaces := by
  refine writes_of_codes rfl ?_ (by decide)
  exact .source (by decide) (.build .nil)

theorem writes_typeInfo :
    Writes kit typeInfo (typeInfoPlaces kit) := by
  refine
    writes_of_codes rfl ?_
      (by simp [typeInfoPlaces, factoryPlace])
  have hFactories :
      AreAt ((codes kit.exported).map (TypeInfo.factory kit))
        (kit.identifiers.map factoryPlace) := by
    rw [codes, List.map_map, Kit.identifiers, List.map_map]
    exact .map isMadeOf_factoryPath
  refine hFactories.append ?_
  exact .source (by decide) (.build .nil)

theorem writes_typelib :
    Writes kit typelib typelibPlaces := by
  refine writes_of_codes rfl ?_ (by decide)
  exact .source (by decide) (.build .nil)

end Plugin

end Componentry

------------------------------------------------------------
-- Running Plugins
------------------------------------------------------------

namespace Componentry

namespace PluginRegistry

variable {kit : Kit}
variable {plugins : List Plugin}
variable {relative : List (List (List String))}

/- Files below the typekit's directory stay inside. -/
theorem staysInside_of_areAt
    {made : List Contribution}
    {relative : List (List String)}
    (hAt : AreAt made relative)
    (hBelow : [] ∉ relative) :
    ∀ contribution ∈ made, contribution.StaysInside := by
  induction made generalizing relative with
  | nil => simp
  | cons contribution made ih =>
      rw [List.forall_mem_cons]
      rcases contribution with ⟨plugin, kind, path, text⟩
      cases kind with
      | build => exact ⟨by rintro ⟨⟩, ih hAt hBelow⟩
      | source =>
          cases relative with
          | nil => cases hAt
          | cons names relative =>
              rw [List.mem_cons, not_or] at hBelow
              have hSplit := List.cons.inj hAt
              have hPath : path.IsMadeOf names := hSplit.1
              refine ⟨fun _ => ?_, ih hSplit.2 hBelow.2⟩
              exact
                Path.isOrdinary_iff_staysInside.mp
                  (hPath.isOrdinary (Ne.symm hBelow.1))

/- A plugin that writes files is accepted if types have names. -/
theorem isAccepted_iff_of_writes
    {plugin : Plugin}
    {places : List (List String)}
    (hPlugin : plugin.Writes kit places) :
    plugin.IsAccepted kit ↔ kit.IsNameable := by
  rw [← hPlugin.succeeds]
  constructor
  · rintro ⟨made, hMade, -⟩
    exact ⟨made, hMade⟩
  · rintro ⟨made, hMade⟩
    refine ⟨made, hMade, ?_⟩
    exact
      staysInside_of_areAt (hPlugin.written made hMade)
        hPlugin.below

/- Plugins that write files all run if types can be named. -/
theorem exists_runAll
    (hWrites :
      List.Forall₂ (Plugin.Writes kit) plugins relative)
    (hNameable : kit.IsNameable) :
    ∃ stamped, runAll kit plugins = .ok stamped := by
  refine ⟨_, runAll_eq_ok_iff.mpr ⟨?_, rfl⟩⟩
  induction hWrites with
  | nil => simp
  | cons hPlugin _ ih =>
      rw [List.forall_mem_cons]
      exact
        ⟨(isAccepted_iff_of_writes hPlugin).mpr hNameable, ih⟩

/- What plugins have written, one after the other. -/
theorem areAt_of_runAll
    (hWrites :
      List.Forall₂ (Plugin.Writes kit) plugins relative)
    {stamped : List Contribution}
    (hRun : runAll kit plugins = .ok stamped) :
    AreAt stamped relative.flatten := by
  rcases runAll_eq_ok_iff.mp hRun with ⟨hAccepted, rfl⟩
  clear hRun
  induction hWrites with
  | nil => exact .nil
  | cons hPlugin _ ih =>
      rw [List.forall_mem_cons] at hAccepted
      rcases hAccepted.1 with ⟨made, hMade, -⟩
      have hWritten := hPlugin.written made hMade
      rw [← Plugin.contributed_of_ok hMade] at hWritten
      rw [List.flatMap_cons]
      exact hWritten.stamped.append (ih hAccepted.2)

/- No plugin writes to the directory of a typekit itself. -/
theorem nil_not_mem_of_writes
    (hWrites :
      List.Forall₂ (Plugin.Writes kit) plugins relative) :
    [] ∉ relative.flatten := by
  induction hWrites with
  | nil => simp
  | cons hPlugin _ ih =>
      rw [List.flatten_cons, List.mem_append, not_or]
      exact ⟨hPlugin.below, ih⟩

end PluginRegistry

end Componentry

------------------------------------------------------------
-- Built-in Plugins
------------------------------------------------------------

namespace Componentry

/- The places that the built-in plugins write to. -/
def Plugin.builtinPlaces
    (kit : Kit) :
    List (List (List String)) :=
  [rosPlaces kit, corbaPlaces, messageQueuePlaces,
    typeInfoPlaces kit, typelibPlaces]

/- All of them, one after the other. -/
def Kit.places (kit : Kit) : List (List String) :=
  (Plugin.builtinPlaces kit).flatten

theorem Plugin.writes_builtin
    {kit : Kit} :
    List.Forall₂ (Writes kit) builtin (builtinPlaces kit) :=
  .cons writes_ros <| .cons writes_corba <|
    .cons writes_messageQueue <| .cons writes_typeInfo <|
      .cons writes_typelib .nil

namespace PluginRegistry

variable {kit : Kit}

/- The built-in plugins run if all types can be named. -/
theorem exists_run_builtin_iff :
    (∃ made, builtin.run kit = .ok made) ↔
      kit.IsNameable := by
  constructor
  · rintro ⟨made, hRun⟩
    simp only [run, bind_eq_ok_iff] at hRun
    rcases hRun with ⟨stamped, hStamped, -⟩
    rw [← isAccepted_iff_of_writes Plugin.writes_ros]
    exact
      (runAll_eq_ok_iff.mp hStamped).1 Plugin.ros
        List.mem_cons_self
  · intro hNameable
    rcases exists_runAll Plugin.writes_builtin hNameable with
      ⟨stamped, hStamped⟩
    refine ⟨⟨kit.name, stamped⟩, ?_⟩
    unfold run
    rw [show builtin.plugins = Plugin.builtin from rfl,
      hStamped]
    rfl

/- The files that the built-in plugins write. -/
theorem components_sources
    {made : KitContributions}
    (hRun : builtin.run kit = .ok made) :
    made.sources.map (·.1.components) =
      kit.places.map (List.map .normal) := by
  simp only [run, bind_eq_ok_iff, Except.ok.injEq] at hRun
  rcases hRun with ⟨stamped, hStamped, rfl⟩
  exact areAt_of_runAll Plugin.writes_builtin hStamped

end PluginRegistry

namespace Kit

variable {kit : Kit}

/- The registration is like the file of one more type. -/
theorem typeInfoPlaces_eq_map :
    Plugin.typeInfoPlaces kit =
      (kit.identifiers ++ ["Registration"]).map
        Plugin.factoryPlace := by
  have hRegistration :
      Plugin.factoryPlace "Registration" =
        ["type_info", "Registration.cpp"] := by
    decide
  rw [List.map_append, List.map_singleton, hRegistration]
  rfl

theorem nodup_typeInfoPlaces_iff :
    (Plugin.typeInfoPlaces kit).Nodup ↔
      kit.identifiers.Nodup ∧
        "Registration" ∉ kit.identifiers := by
  have hInjective :
      Function.Injective Plugin.factoryPlace := by
    intro first second hSame
    simpa [Plugin.factoryPlace] using hSame
  rw [typeInfoPlaces_eq_map, List.nodup_map_iff hInjective,
    ← List.concat_eq_append, List.nodup_concat, and_comm]

theorem nodup_rosPlaces
    (hNodup : kit.identifiers.Nodup) :
    (Plugin.rosPlaces kit).Nodup := by
  have hInjective :
      Function.Injective Plugin.messagePlace := by
    intro first second hSame
    simpa [Plugin.messagePlace] using hSame
  unfold Plugin.rosPlaces
  rw [List.nodup_append]
  refine ⟨hNodup.map hInjective, by decide, ?_⟩
  intro place hMessage other hOther hSame
  rcases List.mem_map.mp hMessage with ⟨identifier, -, rfl⟩
  simp [← hSame, Plugin.messagePlace] at hOther

/- Two plugins have directories of their own. -/
theorem prefix_rosPlaces :
    ∀ place ∈ Plugin.rosPlaces kit,
      ["transports", "ros"] <+: place := by
  intro place hPlace
  rw [Plugin.rosPlaces, List.mem_append] at hPlace
  rcases hPlace with hMessage | hFixed
  · rcases List.mem_map.mp hMessage with ⟨identifier, -, rfl⟩
    exact ⟨["msg", identifier ++ ".msg"], rfl⟩
  · revert place
    decide

theorem prefix_typeInfoPlaces :
    ∀ place ∈ Plugin.typeInfoPlaces kit,
      ["type_info"] <+: place := by
  rw [typeInfoPlaces_eq_map]
  intro place hPlace
  rcases List.mem_map.mp hPlace with ⟨identifier, -, rfl⟩
  exact ⟨[identifier ++ ".cpp"], rfl⟩

/- The places that do not depend on the types. -/
def fixedPlaces : List (List String) :=
  Plugin.corbaPlaces ++ Plugin.messageQueuePlaces
    ++ Plugin.typelibPlaces ++ [["build.fragment"]]

/-
  Files that are named after identifiers differ if these do;
  one of them must not be that of the registration.
-/
theorem nodup_places_iff :
    (kit.places ++ [["build.fragment"]]).Nodup ↔
      kit.identifiers.Nodup ∧
        "Registration" ∉ kit.identifiers := by
  -- Only two plugins write files that are named after types;
  -- these are put in front of all others.
  have hOrder :
      (kit.places ++ [["build.fragment"]]).Perm
        (Plugin.rosPlaces kit
          ++ (Plugin.typeInfoPlaces kit ++ fixedPlaces)) := by
    rw [List.perm_iff_count]
    intro place
    simp only [places, Plugin.builtinPlaces, fixedPlaces,
      List.flatten_cons, List.flatten_nil,
      List.count_append, List.count_nil]
    omega
  rw [hOrder.nodup_iff, ← nodup_typeInfoPlaces_iff,
    List.nodup_append, List.nodup_append]
  constructor
  · rintro ⟨-, ⟨hTypeInfo, -⟩, -⟩
    exact hTypeInfo
  · intro hTypeInfo
    have hRos : (Plugin.rosPlaces kit).Nodup :=
      nodup_rosPlaces (nodup_typeInfoPlaces_iff.mp hTypeInfo).1
    have hFixed :
        ∀ place ∈ fixedPlaces,
          ¬ ["type_info"] <+: place ∧
            ¬ ["transports", "ros"] <+: place := by
      decide
    refine ⟨hRos, ⟨hTypeInfo, by decide, ?_⟩, ?_⟩
    · rintro place hPlace _ hOther rfl
      exact
        (hFixed place hOther).1
          (prefix_typeInfoPlaces place hPlace)
    · rintro place hPlace _ hOther rfl
      have hRosPlace := prefix_rosPlaces place hPlace
      rcases List.mem_append.mp hOther with
        hTypeInfoPlace | hFixedPlace
      · have hBoth :=
          List.prefix_of_prefix_length_le
            (prefix_typeInfoPlaces place hTypeInfoPlace)
            hRosPlace (by decide)
        revert hBoth
        decide
      · exact (hFixed place hFixedPlace).2 hRosPlace

end Kit

end Componentry
