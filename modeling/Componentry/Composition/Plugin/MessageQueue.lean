import Componentry.Composition.Plugin.Shared

/-
  The plugin of the message-queue transport, which registers
  every exported type.

  Key definitions:
    * `Plugin.messageQueue`
-/

------------------------------------------------------------
-- Message Queues
------------------------------------------------------------

namespace Componentry

namespace Plugin

namespace MessageQueue

/- The path of the file that registers the transport. -/
def registrationPath : String :=
  "transports/mqueue/TransportPlugin.cpp"

/- The file that registers the transport. -/
def registration
    (kit : Kit)
    (types : List TypeCode) :
    Contribution :=
  .source ⟨registrationPath⟩ <| Text.unlines <|
    [banner "mqueue" kit,
     "#include <rtt/transports/mqueue/MQTemplateProtocol.hpp>",
     ""]
    ++ registrationHead kit "MQueue"
    ++ (types.flatMap fun type =>
      registrationCase type "ORO_MQUEUE_PROTOCOL_ID"
        (type.identifier ++ "_MQueueTransport()"))
    ++ registrationEnd

end MessageQueue

/- The plugin of the message-queue transport. -/
def messageQueue : Plugin where
  name := "mqueue"
  contribute := fun kit => do
    let types ← typeCodes "mqueue" kit
    .ok
      [MessageQueue.registration kit types,
       transportLibrary kit "mqueue"
         [MessageQueue.registrationPath]]

end Plugin

end Componentry
