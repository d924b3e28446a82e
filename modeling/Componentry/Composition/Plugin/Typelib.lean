import Componentry.Composition.Plugin.Shared

/-
  The plugin of typelib marshalling, which registers every
  exported type with the typekit's type registry.

  Key definitions:
    * `Plugin.typelib`
-/

------------------------------------------------------------
-- Typelib
------------------------------------------------------------

namespace Componentry

namespace Plugin

namespace Typelib

/- The path of the file that registers the marshallers. -/
def registrationPath : String :=
  "transports/typelib/TransportPlugin.cpp"

/- The file that registers the marshallers. -/
def registration
    (kit : Kit)
    (types : List TypeCode) :
    Contribution :=
  .source ⟨registrationPath⟩ <| Text.unlines <|
    [banner "typelib" kit,
     "#include <rtt/typelib/TypelibMarshaller.hpp>",
     ""]
    ++ registrationHead kit "Typelib"
    ++ ["    if (!m_registry) return false;"]
    ++ (types.flatMap fun type =>
      registrationCase type
        "orogen_transports::TYPELIB_MARSHALLER_ID"
        (type.identifier
          ++ "_TypelibMarshaller(*m_registry)"))
    ++ registrationEnd

end Typelib

/- The plugin of typelib marshalling. -/
def typelib : Plugin where
  name := "typelib"
  contribute := fun kit => do
    let types ← typeCodes "typelib" kit
    .ok
      [Typelib.registration kit types,
       transportLibrary kit "typelib"
         [Typelib.registrationPath]]

end Plugin

end Componentry
