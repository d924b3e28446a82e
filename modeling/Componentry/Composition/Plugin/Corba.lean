import Componentry.Composition.Plugin.Shared

/-
  The plugin of the CORBA transport: declares a pair of
  conversions for every exported type and registers them.

  Key definitions:
    * `Plugin.corba`
-/

------------------------------------------------------------
-- CORBA
------------------------------------------------------------

namespace Componentry

namespace Plugin

namespace Corba

/- The declarations of the two conversions of a type. -/
def declarations (type : TypeCode) : List String :=
  let corba := "orogen::Corba::" ++ type.identifier
  let value := "::" ++ type.cxx
  ["    bool toCORBA(" ++ corba ++ "& corba, " ++ value
     ++ " const& value);",
   "    bool fromCORBA(" ++ value ++ "& value, " ++ corba
     ++ " const& corba);"]

/- The path of the file that declares the conversions. -/
def conversionsPath : String :=
  "transports/corba/Convertions.cpp"

/- The file that declares the conversions. -/
def conversions
    (kit : Kit)
    (types : List TypeCode) :
    Contribution :=
  .source ⟨conversionsPath⟩ <| Text.unlines <|
    [banner "corba" kit,
     "#include \"" ++ kit.name ++ "/transports/corba/"
       ++ kit.name ++ "TypesC.h\"",
     "#include <rtt/Logger.hpp>",
     "",
     "namespace orogen_typekits \x7b"]
    ++ types.flatMap declarations
    ++ ["\x7d"]

/- The path of the file that registers the transport. -/
def registrationPath : String :=
  "transports/corba/TransportPlugin.cpp"

/- The file that registers the transport. -/
def registration
    (kit : Kit)
    (types : List TypeCode) :
    Contribution :=
  .source ⟨registrationPath⟩ <| Text.unlines <|
    [banner "corba" kit,
     "#include <rtt/transports/corba/CorbaTemplateProtocol.hpp>",
     ""]
    ++ registrationHead kit "Corba"
    ++ (types.flatMap fun type =>
      registrationCase type "ORO_CORBA_PROTOCOL_ID"
        ("new " ++ type.identifier ++ "_CorbaTransport()"))
    ++ registrationEnd

end Corba

/- The plugin of the CORBA transport. -/
def corba : Plugin where
  name := "corba"
  contribute := fun kit => do
    let types ← typeCodes "corba" kit
    .ok
      [Corba.conversions kit types,
       Corba.registration kit types,
       transportLibrary kit "corba"
         [Corba.conversionsPath, Corba.registrationPath]]

end Plugin

end Componentry
