import Componentry.Proofs.Composition.BuildLists

/-
  What generated code declares, defines and registers.

  Some plugins write a declaration to one file, its definition
  to another one and its registration to a third.  The lines
  that belong to a type are told by how they start, whatever
  the names are, as long as each is on one line.  So what is
  declared is defined, and what is defined is registered: it
  is made for the exported types, in their order.

  Main declarations:
    * `Plugin.Ros.signatures`
    * `Plugin.Ros.exists_header`
    * `Plugin.Ros.exists_definitions`
    * `Plugin.TypeInfo.map_factories`
    * `Plugin.TypeInfo.exists_registration`
    * `Plugin.Ros.DefinesDeclared`
    * `Plugin.TypeInfo.RegistersDefined`
    * `Plugin.registersDeclared`
-/

------------------------------------------------------------
-- Names on One Line
------------------------------------------------------------

namespace Componentry

/- A C++ name has the characters of the type, and colons. -/
theorem TypeName.not_mem_cxx
    {name : String}
    {c : Char}
    (hColon : c ≠ ':')
    (hName : c ∉ name.toList) :
    c ∉ (cxx name).toList := by
  have hAfter :
      ∀ (cs : List Char) (previous : Option Char),
        c ∉ cs → c ∉ cxxAfter previous cs := by
    intro cs
    induction cs with
    | nil => simp [cxxAfter]
    | cons d cs ih =>
        intro previous hText
        rw [List.mem_cons, not_or] at hText
        rw [cxxAfter, List.mem_append, not_or]
        refine ⟨?_, ih _ hText.2⟩
        split
        · split <;> simp [hColon]
        · simpa using hText.1
  rw [cxx, String.toList_ofList]
  exact hAfter _ _ hName

namespace Plugin

variable {kit : Kit}

/- A line around the name of a typekit is not indented. -/
theorem isOther_around
    {start front rest : String}
    (hKit : '\n' ∉ kit.name.toList)
    (hStart : start.toList.head? = some ' ')
    (hFront :
      front ≠ "" ∧ front.toList.head? ≠ some ' ' ∧
        '\n' ∉ front.toList)
    (hRest : Text.IsLine rest ∧ rest ≠ "") :
    Text.IsOther start (front ++ kit.name ++ rest) := by
  apply Text.IsOther.of_indented hStart
  · apply Text.IsLine.append _ hRest
    rw [String.toList_append, List.mem_append, not_or]
    exact ⟨hFront.2.2, hKit⟩
  · rw [String.toList_append, String.toList_append,
      List.append_assoc, List.head?_append_of_ne_nil]
    · exact hFront.2.1
    · exact mt String.toList_eq_nil_iff.mp hFront.1

theorem isOther_banner
    {start plugin : String}
    (hKit : '\n' ∉ kit.name.toList)
    (hStart : start.toList.head? = some ' ')
    (hPlugin : '\n' ∉ plugin.toList) :
    Text.IsOther start (banner plugin kit) := by
  unfold banner
  apply isOther_around hKit hStart
  · simp [hPlugin]
  · decide

/-
  Between other lines, what is found are the lines that are
  written for the types, in their order.
-/
theorem linesBehind_codes
    {start : String}
    {before after names : List String}
    {written : TypeCode → List String}
    (found : String → List String)
    (hBefore : ∀ line ∈ before, Text.IsOther start line)
    (hAfter : ∀ line ∈ after, Text.IsOther start line)
    (hLines :
      ∀ name ∈ names,
        ∀ line ∈ written ⟨name, TypeName.method name⟩,
          Text.IsLine line)
    (hFound :
      ∀ name,
        (written ⟨name, TypeName.method name⟩).filterMap
            (Text.behind? start) =
          found name) :
    Text.linesBehind start
        (Text.unlines
          (before ++ (codes names).flatMap written ++ after)) =
      names.flatMap found := by
  rw [codes, List.flatMap_map]
  exact
    Text.linesBehind_items found hBefore hAfter hLines
      fun name _ => hFound name

/- There may be only one such line for each type. -/
theorem linesBehind_map
    {start : String}
    {before after names : List String}
    {line : TypeCode → String}
    (found : String → String)
    (hBefore : ∀ line ∈ before, Text.IsOther start line)
    (hAfter : ∀ line ∈ after, Text.IsOther start line)
    (hLine :
      ∀ name ∈ names,
        Text.IsLine (line ⟨name, TypeName.method name⟩))
    (hFound :
      ∀ name,
        Text.behind? start
            (line ⟨name, TypeName.method name⟩) =
          some (found name)) :
    Text.linesBehind start
        (Text.unlines
          (before ++ (codes names).map line ++ after)) =
      names.map found := by
  rw [List.map_eq_flatMap, List.map_eq_flatMap]
  apply linesBehind_codes _ hBefore hAfter
  · intro name hName
    rw [List.forall_mem_singleton]
    exact hLine name hName
  · intro name
    rw [List.filterMap_cons_some (hFound name),
      List.filterMap_nil]

end Plugin

end Componentry

------------------------------------------------------------
-- Conversions
------------------------------------------------------------

namespace Componentry

namespace Plugin

namespace Ros

/- The signature of the conversion of a type into a message. -/
def toMessage (kit name : String) : String :=
  "toROS(" ++ kit ++ "_msgs::" ++ TypeName.method name
    ++ "& ros, ::" ++ TypeName.cxx name ++ " const& value)"

/- The signature of the conversion back. -/
def ofMessage (kit name : String) : String :=
  "fromROS(::" ++ TypeName.cxx name ++ "& value, " ++ kit
    ++ "_msgs::" ++ TypeName.method name ++ " const& ros)"

/- The two signatures of a type. -/
def signatures (kit name : String) : List String :=
  [toMessage kit name, ofMessage kit name]

/- The message of a type: its path and its text. -/
def messageFile (name : String) : Path × String :=
  (⟨"transports/ros/msg/" ++ TypeName.method name ++ ".msg"⟩,
   "# ROS mapping of " ++ name ++ "\nuint8[] data\n")

variable {kit : Kit}
variable {name : String}

theorem source?_message
    (name : String) :
    (message ⟨name, TypeName.method name⟩).source? =
      some (messageFile name) := by
  have hText :
      Text.unlines
          ["# ROS mapping of " ++ name, "uint8[] data"] =
        "# ROS mapping of " ++ name ++ "\nuint8[] data\n" := by
    rw [← String.toList_inj]
    simp [Text.unlines]
  rw [message, Contribution.source?_source, hText]
  rfl

/- Conversions return nothing. -/
theorem conversions_eq
    (kit : Kit)
    (name : String) :
    conversions kit ⟨name, TypeName.method name⟩ =
      ("    void " ++ toMessage kit.name name,
       "    void " ++ ofMessage kit.name name) := by
  unfold conversions toMessage ofMessage TypeCode.cxx
  rw [Prod.mk.injEq]
  constructor <;> simp [← String.toList_inj]

/- A signature is on one line if the names are. -/
theorem isLine_signature
    (hKit : '\n' ∉ kit.name.toList)
    (hName : '\n' ∉ name.toList) :
    ∀ signature ∈ signatures kit.name name,
      Text.IsLine signature ∧ signature ≠ "" := by
  have hMethod : '\n' ∉ (TypeName.method name).toList :=
    TypeName.not_mem_method (by decide) name
  have hCxx : '\n' ∉ (TypeName.cxx name).toList :=
    TypeName.not_mem_cxx (by decide) hName
  have hFilled {front ending : String}
      (hEnding : ending ≠ "") :
      front ++ ending ≠ "" := by
    rw [ne_eq, String.append_eq_empty_iff, not_and_or]
    exact Or.inr hEnding
  simp only [signatures, List.forall_mem_cons]
  refine
    ⟨⟨.append ?_ (by decide), hFilled (by decide)⟩,
      ⟨.append ?_ (by decide), hFilled (by decide)⟩, by simp⟩
  all_goals
    simp only [String.toList_append, List.mem_append, hKit,
      hMethod, hCxx, or_false]
    decide

/- The lines in front of the conversions are not indented. -/
theorem isOther_opening
    {start path : String}
    (hKit : '\n' ∉ kit.name.toList)
    (hStart : start.toList.head? = some ' ')
    (hPath : Text.IsLine path ∧ path ≠ "") :
    ∀ line ∈
        [banner "ros" kit,
         "#include \"" ++ kit.name ++ path,
         "",
         "namespace ros_convertions \x7b"],
      Text.IsOther start line := by
  simp only [List.forall_mem_cons]
  exact
    ⟨isOther_banner hKit hStart (by decide),
      isOther_around hKit hStart (by decide) hPath,
      .of_indented hStart (by decide) (by decide),
      .of_indented hStart (by decide) (by decide), by simp⟩

section Files

variable {names : List String}
variable (hKit : '\n' ∉ kit.name.toList)
variable (hNames : ∀ name ∈ names, '\n' ∉ name.toList)

include hKit hNames

/- The header declares both conversions of every type. -/
theorem exists_header :
    ∃ text,
      header kit (codes names) =
          .source ⟨"transports/ros/Convertions.hpp"⟩ text ∧
        Text.linesBehind "    void " text =
          (names.flatMap (signatures kit.name)).map
            (· ++ ";") := by
  have hLine {signature : String}
      (hSignature : Text.IsLine signature) :
      Text.IsLine ("    void " ++ signature ++ ";") :=
    .append (by simp [hSignature.no_break]) (by decide)
  refine ⟨_, rfl, ?_⟩
  rw [List.map_flatMap]
  apply linesBehind_codes
  case hBefore =>
    exact isOther_opening hKit (by decide) (by decide)
  case hAfter => decide
  case hLines =>
    intro name hName
    have hSignatures :=
      isLine_signature hKit (hNames name hName)
    rw [conversions_eq]
    simp only [signatures, List.forall_mem_cons]
      at hSignatures ⊢
    exact
      ⟨hLine hSignatures.1.1, hLine hSignatures.2.1.1,
        by simp⟩
  case hFound =>
    intro name
    rw [conversions_eq]
    simp only [signatures, List.map_cons, List.map_nil,
      String.append_assoc, List.filterMap_cons,
      List.filterMap_nil, Text.behind?_append]

/- All of them are defined, and nothing else is. -/
theorem exists_definitions :
    ∃ text,
      definitions kit (codes names) =
          .source ⟨definitionsPath⟩ text ∧
        Text.linesBehind "    void " text =
          names.flatMap (signatures kit.name) := by
  have hBodies :
      ∀ body ∈
          ["    \x7b orogen_transports::toByteArray(ros.data, value); \x7d",
           "    \x7b orogen_transports::fromByteArray(value, ros.data); \x7d"],
        Text.IsOther "    void " body := by
    decide
  simp only [List.forall_mem_cons] at hBodies
  refine ⟨_, rfl, ?_⟩
  apply linesBehind_codes
  case hBefore =>
    exact isOther_opening hKit (by decide) (by decide)
  case hAfter => decide
  case hLines =>
    intro name hName
    have hSignatures :=
      isLine_signature hKit (hNames name hName)
    rw [conversions_eq]
    simp only [signatures, List.forall_mem_cons]
      at hSignatures ⊢
    exact
      ⟨.append (by decide) hSignatures.1, hBodies.1.is_line,
        .append (by decide) hSignatures.2.1,
        hBodies.2.1.is_line, by simp⟩
  case hFound =>
    intro name
    rw [conversions_eq]
    simp only [signatures, List.filterMap_cons,
      List.filterMap_nil, Text.behind?_append,
      hBodies.1.not_found, hBodies.2.1.not_found]

/- The transport is registered for every type. -/
theorem exists_registration :
    ∃ text,
      registration kit (codes names) =
          .source ⟨registrationPath⟩ text ∧
        Text.linesBehind "    if (\"" text =
          names.map (· ++ "\" == type_name)") := by
  have hHead :
      Text.IsOther "    if (\""
        ("bool orogen_typekits::" ++ kit.name
          ++ ("Ros"
            ++ "TransportPlugin::registerTransport(std::string type_name, RTT::types::TypeInfo* ti)")) :=
    isOther_around hKit (by decide) (by decide) (by decide)
  have hCase (rest : String) :
      Text.behind? "    if (\""
        ("        return ti->addProtocol(" ++ rest) = none := by
    simp [Text.behind?, Text.stripPrefix?]
  rw [← String.append_assoc] at hHead
  refine ⟨_, rfl, ?_⟩
  rw [List.map_eq_flatMap]
  apply linesBehind_codes
  case hBefore =>
    simp only [registrationHead, List.forall_mem_append,
      List.forall_mem_cons]
    exact
      ⟨⟨isOther_banner hKit (by decide) (by decide),
          by decide, by decide, by simp⟩,
        hHead, by decide, by simp⟩
  case hAfter => decide
  case hLines =>
    intro name hName
    have hMethod : '\n' ∉ (TypeName.method name).toList :=
      TypeName.not_mem_method (by decide) name
    have hCxx : '\n' ∉ (TypeName.cxx name).toList :=
      TypeName.not_mem_cxx (by decide) (hNames name hName)
    simp only [registrationCase, List.forall_mem_cons]
    refine
      ⟨.append ?_ (by decide), .append ?_ (by decide),
        by simp⟩
    · simp [hNames name hName]
    · simp [TypeCode.cxx, hKit, hMethod, hCxx]
  case hFound =>
    intro name
    simp only [registrationCase, List.filterMap_cons,
      List.filterMap_nil, String.append_assoc,
      Text.behind?_append, hCase]

end Files

end Ros

end Plugin

end Componentry

------------------------------------------------------------
-- Descriptions of Types
------------------------------------------------------------

namespace Componentry

namespace Plugin

namespace TypeInfo

variable {kit : Kit}
variable {name : String}
variable {names : List String}

/- A line that names the description of a type. -/
theorem isLine_described
    {front ending : String}
    (name : String)
    (hFront : '\n' ∉ front.toList)
    (hEnding : Text.IsLine ending ∧ ending ≠ "") :
    Text.IsLine (front ++ TypeName.method name ++ ending) := by
  have hMethod : '\n' ∉ (TypeName.method name).toList :=
    TypeName.not_mem_method (by decide) name
  apply Text.IsLine.append _ hEnding
  simp [hFront, hMethod]

/- The head of the function names the description. -/
theorem behind?_factoryHead
    (name : String) :
    Text.behind? "    RTT::types::TypeInfo* "
        (factoryHead ⟨name, TypeName.method name⟩) =
      some (TypeName.method name ++ "_TypeInfo()") := by
  unfold factoryHead
  rw [String.append_assoc, Text.behind?_append]

/- The file of a type defines the description of this type. -/
theorem exists_factory
    (hKit : '\n' ∉ kit.name.toList)
    (hName : '\n' ∉ name.toList) :
    ∃ text,
      factory kit ⟨name, TypeName.method name⟩ =
          .source
            ⟨"type_info/" ++ TypeName.method name ++ ".cpp"⟩
            text ∧
        Text.linesBehind "    RTT::types::TypeInfo* " text =
          [TypeName.method name ++ "_TypeInfo()"] := by
  have hCxx : '\n' ∉ (TypeName.cxx name).toList :=
    TypeName.not_mem_cxx (by decide) hName
  let body :=
    "    \x7b return new RTT::types::StructTypeInfo< ::"
      ++ TypeName.cxx name ++ " >(\"" ++ name ++ "\"); \x7d"
  have hBody :
      Text.IsOther "    RTT::types::TypeInfo* " body := by
    constructor
    · apply Text.IsLine.append _ (by decide)
      simp [hCxx, hName]
    · simp [body, Text.behind?, Text.stripPrefix?]
  -- There is one line for the type, between all others.
  refine
    ⟨Text.unlines
      ([banner "type_info" kit,
        "#include <rtt/types/StructTypeInfo.hpp>",
        "",
        "namespace orogen_typekits \x7b"]
        ++ (codes [name]).map factoryHead
        ++ [body, "\x7d"]),
      rfl, ?_⟩
  change _ = [name].map (TypeName.method · ++ "_TypeInfo()")
  apply linesBehind_map
  case hBefore =>
    simp only [List.forall_mem_cons]
    exact
      ⟨isOther_banner hKit (by decide) (by decide),
        by decide, by decide, by decide, by simp⟩
  case hAfter =>
    simp only [List.forall_mem_cons]
    exact ⟨hBody, by decide, by simp⟩
  case hLine =>
    intro name _
    exact isLine_described name (by decide) (by decide)
  case hFound => exact behind?_factoryHead

/- There is such a file for every type, in order. -/
theorem map_factories
    (hKit : '\n' ∉ kit.name.toList)
    (hNames : ∀ name ∈ names, '\n' ∉ name.toList) :
    (((codes names).map (factory kit)).filterMap
        (·.source?)).map
        (fun file =>
          (file.1,
           Text.linesBehind "    RTT::types::TypeInfo* "
             file.2)) =
      (names.map TypeName.method).map fun identifier =>
        (⟨"type_info/" ++ identifier ++ ".cpp"⟩,
         [identifier ++ "_TypeInfo()"]) := by
  induction names with
  | nil => rfl
  | cons name names ih =>
      rw [List.forall_mem_cons] at hNames
      rcases exists_factory hKit hNames.1 with
        ⟨text, hFactory, hDefined⟩
      rw [codes, List.map_cons, List.map_cons, hFactory,
        List.map_cons, List.map_cons, ← ih hNames.2,
        ← hDefined]
      rfl

/- The lines in front of the declarations are not indented. -/
theorem isOther_opening
    {start : String}
    (hKit : '\n' ∉ kit.name.toList)
    (hStart : start.toList.head? = some ' ') :
    ∀ line ∈
        [banner "type_info" kit,
         "#include <" ++ kit.name ++ "/TypekitTypes.hpp>",
         "",
         "namespace orogen_typekits \x7b"],
      Text.IsOther start line := by
  simp only [List.forall_mem_cons]
  exact
    ⟨isOther_banner hKit hStart (by decide),
      isOther_around hKit hStart (by decide) (by decide),
      .of_indented hStart (by decide) (by decide),
      .of_indented hStart (by decide) (by decide), by simp⟩

/- A declaration is not taken for a registration. -/
theorem isOther_declared
    (name : String) :
    Text.IsOther "    repo.addType(orogen_typekits::"
      (factoryHead ⟨name, TypeName.method name⟩ ++ ";") := by
  unfold factoryHead
  rw [String.append_assoc]
  constructor
  · exact isLine_described name (by decide) (by decide)
  · simp [Text.behind?, Text.stripPrefix?]

/- Nor is a registration taken for a declaration. -/
theorem isOther_registered
    (name : String) :
    Text.IsOther "    RTT::types::TypeInfo* "
      ("    repo.addType(orogen_typekits::"
        ++ TypeName.method name ++ "_TypeInfo());") := by
  constructor
  · exact isLine_described name (by decide) (by decide)
  · simp [Text.behind?, Text.stripPrefix?]

/- All types are declared and registered, in order. -/
theorem exists_registration
    (hKit : '\n' ∉ kit.name.toList)
    (names : List String) :
    ∃ text,
      registration kit (codes names) =
          .source ⟨"type_info/Registration.cpp"⟩ text ∧
        Text.linesBehind "    RTT::types::TypeInfo* " text =
          names.map (TypeName.method · ++ "_TypeInfo();") ∧
        Text.linesBehind "    repo.addType(orogen_typekits::"
            text =
          names.map (TypeName.method · ++ "_TypeInfo());") := by
  refine ⟨_, rfl, ?declared, ?registered⟩
  case declared =>
    rw [List.append_assoc, List.append_assoc]
    apply linesBehind_map
    case hBefore => exact isOther_opening hKit (by decide)
    case hAfter =>
      simp only [List.forall_mem_append,
        List.forall_mem_cons, List.forall_mem_map, codes]
      exact
        ⟨⟨by decide, by decide, by decide, by decide,
            by simp⟩,
          fun name _ => isOther_registered name,
          by decide, by simp⟩
    case hLine =>
      intro name _
      exact (isOther_declared name).is_line
    case hFound =>
      intro name
      unfold factoryHead
      rw [String.append_assoc, String.append_assoc,
        Text.behind?_append]
      rfl
  case registered =>
    apply linesBehind_map
    case hBefore =>
      simp only [List.forall_mem_append, List.forall_mem_map,
        codes]
      exact
        ⟨⟨isOther_opening hKit (by decide),
            fun name _ => isOther_declared name⟩,
          by decide⟩
    case hAfter => decide
    case hLine =>
      intro name _
      exact (isOther_registered name).is_line
    case hFound =>
      intro name
      rw [String.append_assoc, Text.behind?_append]

end TypeInfo

end Plugin

end Componentry

------------------------------------------------------------
-- Declared, Defined and Registered
------------------------------------------------------------

namespace Componentry

namespace Plugin

variable {kit : Kit}
variable {made : List Contribution}

/-
  Conversions are declared in the header, defined in a file of
  their own and registered; both are there for each exported
  type, and so is a message.
-/
def Ros.DefinesDeclared
    (kit : Kit)
    (made : List Contribution) : Prop :=
  ∃ header definitions registration,
    made.filterMap (·.source?) =
        kit.exported.map messageFile ++
          [(⟨"transports/ros/Convertions.hpp"⟩, header),
           (⟨"transports/ros/Convertions.cpp"⟩, definitions),
           (⟨"transports/ros/TransportPlugin.cpp"⟩,
            registration)] ∧
      Text.linesBehind "    void " header =
        (Text.linesBehind "    void " definitions).map
          (· ++ ";") ∧
      Text.linesBehind "    void " definitions =
        kit.exported.flatMap (signatures kit.name) ∧
      Text.linesBehind "    if (\"" registration =
        kit.exported.map (· ++ "\" == type_name)")

/-
  Descriptions are defined in a file for each exported type,
  and both declared and registered in a file for all of them.
-/
def TypeInfo.RegistersDefined
    (kit : Kit)
    (made : List Contribution) : Prop :=
  ∃ factories registration,
    made.filterMap (·.source?) =
        factories ++
          [(⟨"type_info/Registration.cpp"⟩, registration)] ∧
      factories.map
          (fun file : Path × String =>
            (file.1,
             Text.linesBehind "    RTT::types::TypeInfo* "
               file.2)) =
        kit.identifiers.map
          (fun identifier =>
            (⟨"type_info/" ++ identifier ++ ".cpp"⟩,
             [identifier ++ "_TypeInfo()"])) ∧
      Text.linesBehind "    RTT::types::TypeInfo* "
          registration =
        kit.identifiers.map (· ++ "_TypeInfo();") ∧
      Text.linesBehind "    repo.addType(orogen_typekits::"
          registration =
        kit.identifiers.map (· ++ "_TypeInfo());")

section Succeeds

variable (hKit : '\n' ∉ kit.name.toList)
variable (hNames : ∀ name ∈ kit.exported, '\n' ∉ name.toList)

include hKit hNames

theorem definesDeclared_ros
    (hMade : ros.contribute kit = .ok made) :
    Ros.DefinesDeclared kit made := by
  have hIs := ((contribute_eq_ok_iff rfl).mp hMade).2
  rcases Ros.exists_header hKit hNames with
    ⟨header, hHeader, hDeclared⟩
  rcases Ros.exists_definitions hKit hNames with
    ⟨definitions, hDefinitions, hDefined⟩
  rcases Ros.exists_registration hKit hNames with
    ⟨registration, hRegistration, hRegistered⟩
  refine
    ⟨header, definitions, registration, ?_, ?_, hDefined,
      hRegistered⟩
  · rw [← hIs, List.filterMap_append, hHeader, hDefinitions,
      hRegistration, codes, List.map_map, List.filterMap_map]
    simp only [Function.comp_def, Ros.source?_message,
      List.filterMap_eq_map']
    rfl
  · rw [hDeclared, hDefined]

theorem registersDefined_typeInfo
    (hMade : typeInfo.contribute kit = .ok made) :
    TypeInfo.RegistersDefined kit made := by
  have hIs := ((contribute_eq_ok_iff rfl).mp hMade).2
  rcases TypeInfo.exists_registration hKit kit.exported with
    ⟨registration, hRegistration, hDeclared, hRegistered⟩
  refine
    ⟨((codes kit.exported).map
        (TypeInfo.factory kit)).filterMap (·.source?),
      registration, ?_, TypeInfo.map_factories hKit hNames,
      ?_, ?_⟩
  · rw [← hIs, List.filterMap_append, hRegistration]
    rfl
  · rw [hDeclared, Kit.identifiers, List.map_map]
    rfl
  · rw [hRegistered, Kit.identifiers, List.map_map]
    rfl

/-
  Whatever is exported, both plugins define what they declare
  and register what they define.
-/
theorem registersDeclared :
    (∀ made,
      ros.contribute kit = .ok made →
        Ros.DefinesDeclared kit made) ∧
      ∀ made,
        typeInfo.contribute kit = .ok made →
          TypeInfo.RegistersDefined kit made :=
  ⟨fun _ => definesDeclared_ros hKit hNames,
    fun _ => registersDefined_typeInfo hKit hNames⟩

end Succeeds

theorem samplePair_registersDeclared :
    '\n' ∉ samplePair.name.toList ∧
      (∀ name ∈ samplePair.exported, '\n' ∉ name.toList) ∧
      (∃ made,
        ros.contribute samplePair = .ok made ∧
          Ros.DefinesDeclared samplePair made) ∧
      (∃ made,
        typeInfo.contribute samplePair = .ok made ∧
          TypeInfo.RegistersDefined samplePair made) ∧
      samplePair.exported.flatMap (Ros.signatures "base") =
        ["toROS(base_msgs::base_Time& ros, ::base::Time const& value)",
         "fromROS(::base::Time& value, base_msgs::base_Time const& ros)",
         "toROS(base_msgs::std_vector_double& ros, ::std::vector<double> const& value)",
         "fromROS(::std::vector<double>& value, base_msgs::std_vector_double const& ros)"] ∧
      samplePair.identifiers =
        ["base_Time", "std_vector_double"] := by
  have hKit : '\n' ∉ samplePair.name.toList := by
    decide
  have hNames :
      ∀ name ∈ samplePair.exported, '\n' ∉ name.toList := by
    decide
  have hNameable : samplePair.IsNameable := by
    unfold Kit.IsNameable
    decide
  have hBoth := registersDeclared hKit hNames
  refine ⟨hKit, hNames, ?_, ?_, by decide, by decide⟩
  · have hMade : ros.contribute samplePair = .ok _ :=
      (contribute_eq_ok_iff rfl).mpr ⟨hNameable, rfl⟩
    exact ⟨_, hMade, hBoth.1 _ hMade⟩
  · have hMade : typeInfo.contribute samplePair = .ok _ :=
      (contribute_eq_ok_iff rfl).mpr ⟨hNameable, rfl⟩
    exact ⟨_, hMade, hBoth.2 _ hMade⟩

end Plugin

end Componentry
