import Componentry.Digest.Blake3
import Componentry.Json.Printer

/-
  Fingerprints: the BLAKE3 hash of a document.

  The fingerprint of a value is the hash of its compact JSON
  text, so values with different texts are told apart as far
  as the hash tells them apart.

  Key definitions:
    * `Fingerprint`
    * `Fingerprint.ofText`, `Fingerprint.ofJson`
    * `Fingerprint.hex`
-/

------------------------------------------------------------
-- Fingerprints
------------------------------------------------------------

namespace Componentry

/- The bytes of a hash. -/
structure Fingerprint where
  bytes : List UInt8
deriving DecidableEq, Repr

namespace Fingerprint

/- The fingerprint of bytes. -/
def ofBytes (bytes : List UInt8) : Fingerprint :=
  ⟨Blake3.hash bytes⟩

/- The fingerprint of a text, taken on its UTF-8 bytes. -/
def ofText (text : String) : Fingerprint :=
  ofBytes text.toUTF8.data.toList

/- The fingerprint of a document. -/
def ofJson (document : Json) : Fingerprint :=
  ofText document.compact

/- Two hexadecimal digits for a byte. -/
def hexByte (byte : UInt8) : List Char :=
  [Text.hexDigit (byte.toNat / 16),
   Text.hexDigit (byte.toNat % 16)]

/- The fingerprint in hexadecimal. -/
def hex (fingerprint : Fingerprint) : String :=
  String.ofList (fingerprint.bytes.flatMap hexByte)

/- The first eight digits. -/
def shortHex (fingerprint : Fingerprint) : String :=
  String.ofList ((fingerprint.bytes.take 4).flatMap hexByte)

/- The fingerprint as it appears in listings. -/
def label (fingerprint : Fingerprint) : String :=
  "Fingerprint(" ++ fingerprint.shortHex ++ ")"

/- The fingerprint as an array of numbers. -/
def toJson (fingerprint : Fingerprint) : Json :=
  .array (fingerprint.bytes.map fun b => .ofNat b.toNat)

end Fingerprint

end Componentry
