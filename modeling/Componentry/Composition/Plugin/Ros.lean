import Componentry.Composition.Plugin.Shared

/-
  The plugin of the ROS transport: a message definition and a
  pair of conversions for every exported type.

  Key definitions:
    * `Plugin.ros`
-/

------------------------------------------------------------
-- ROS
------------------------------------------------------------

namespace Componentry

namespace Plugin

namespace Ros

/- The heads of the two conversions of a type. -/
def conversions
    (kit : Kit)
    (type : TypeCode) :
    String × String :=
  let message := kit.name ++ "_msgs::" ++ type.identifier
  let value := "::" ++ type.cxx
  ("    void toROS(" ++ message ++ "& ros, " ++ value
     ++ " const& value)",
   "    void fromROS(" ++ value ++ "& value, " ++ message
     ++ " const& ros)")

/- The path of the message of a type. -/
def messagePath (type : TypeCode) : Path :=
  ⟨"transports/ros/msg/" ++ type.identifier ++ ".msg"⟩

/- The message of a type. -/
def message (type : TypeCode) : Contribution :=
  .source (messagePath type) <| Text.unlines
    ["# ROS mapping of " ++ type.name, "uint8[] data"]

/- The file that declares the conversions. -/
def header
    (kit : Kit)
    (types : List TypeCode) :
    Contribution :=
  .source ⟨"transports/ros/Convertions.hpp"⟩ <| Text.unlines <|
    [banner "ros" kit,
     "#include \"" ++ kit.name ++ "/transports/ros/Types.hpp\"",
     "",
     "namespace ros_convertions \x7b"]
    ++ (types.flatMap fun type =>
      let (toRos, fromRos) := conversions kit type
      [toRos ++ ";", fromRos ++ ";"])
    ++ ["\x7d"]

/- The path of the file that defines the conversions. -/
def definitionsPath : String :=
  "transports/ros/Convertions.cpp"

/- The file that defines the conversions. -/
def definitions
    (kit : Kit)
    (types : List TypeCode) :
    Contribution :=
  .source ⟨definitionsPath⟩ <| Text.unlines <|
    [banner "ros" kit,
     "#include \"" ++ kit.name
       ++ "/transports/ros/Convertions.hpp\"",
     "",
     "namespace ros_convertions \x7b"]
    ++ (types.flatMap fun type =>
      let (toRos, fromRos) := conversions kit type
      [toRos,
       "    \x7b orogen_transports::toByteArray(ros.data, value); \x7d",
       fromRos,
       "    \x7b orogen_transports::fromByteArray(value, ros.data); \x7d"])
    ++ ["\x7d"]

/- The path of the file that registers the transport. -/
def registrationPath : String :=
  "transports/ros/TransportPlugin.cpp"

/- The file that registers the transport. -/
def registration
    (kit : Kit)
    (types : List TypeCode) :
    Contribution :=
  .source ⟨registrationPath⟩ <| Text.unlines <|
    [banner "ros" kit,
     "#include <rtt/transports/ros/ROSMsgTransporter.hpp>",
     ""]
    ++ registrationHead kit "Ros"
    ++ (types.flatMap fun type =>
      registrationCase type "ORO_ROS_PROTOCOL_ID"
        ("new ros_integration::RosMsgTransporter< ::"
          ++ type.cxx ++ ", " ++ kit.name ++ "_msgs::"
          ++ type.identifier ++ " >()"))
    ++ registrationEnd

end Ros

/- The plugin of the ROS transport. -/
def ros : Plugin where
  name := "ros"
  contribute := fun kit => do
    let types ← typeCodes "ros" kit
    .ok <| types.map Ros.message ++
      [Ros.header kit types,
       Ros.definitions kit types,
       Ros.registration kit types,
       transportLibrary kit "ros"
         [Ros.definitionsPath, Ros.registrationPath]]

end Plugin

end Componentry
