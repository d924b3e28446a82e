import Componentry.Composition.Plugin.Shared

/-
  The plugin of type information: a file for every exported
  type that makes its description, and a file that registers
  them all.

  Key definitions:
    * `Plugin.typeInfo`
-/

------------------------------------------------------------
-- Type Information
------------------------------------------------------------

namespace Componentry

namespace Plugin

namespace TypeInfo

/- The path of the file of a type. -/
def factoryPath (type : TypeCode) : String :=
  "type_info/" ++ type.identifier ++ ".cpp"

/- The head of the function that describes a type. -/
def factoryHead (type : TypeCode) : String :=
  "    RTT::types::TypeInfo* " ++ type.identifier
    ++ "_TypeInfo()"

/- The file of a type. -/
def factory
    (kit : Kit)
    (type : TypeCode) :
    Contribution :=
  .source ⟨factoryPath type⟩ <| Text.unlines
    [banner "type_info" kit,
     "#include <rtt/types/StructTypeInfo.hpp>",
     "",
     "namespace orogen_typekits \x7b",
     factoryHead type,
     "    \x7b return new RTT::types::StructTypeInfo< ::"
       ++ type.cxx ++ " >(\"" ++ type.name ++ "\"); \x7d",
     "\x7d"]

/- The path of the file that registers all types. -/
def registrationPath : String :=
  "type_info/Registration.cpp"

/- The file that registers all types. -/
def registration
    (kit : Kit)
    (types : List TypeCode) :
    Contribution :=
  .source ⟨registrationPath⟩ <| Text.unlines <|
    [banner "type_info" kit,
     "#include <" ++ kit.name ++ "/TypekitTypes.hpp>",
     "",
     "namespace orogen_typekits \x7b"]
    ++ (types.map fun type => factoryHead type ++ ";")
    ++ ["\x7d",
     "",
     "void register_type_infos(RTT::types::TypeInfoRepository& repo)",
     "\x7b"]
    ++ (types.map fun type =>
      "    repo.addType(orogen_typekits::" ++ type.identifier
        ++ "_TypeInfo());")
    ++ ["\x7d"]

end TypeInfo

/- The plugin of type information. -/
def typeInfo : Plugin where
  name := "type_info"
  contribute := fun kit => do
    let types ← typeCodes "type_info" kit
    .ok <| types.map (TypeInfo.factory kit) ++
      [TypeInfo.registration kit types,
       transportLibrary kit "type_info"
         (types.map TypeInfo.factoryPath
           ++ [TypeInfo.registrationPath])]

end Plugin

end Componentry
