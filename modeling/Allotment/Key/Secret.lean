import Allotment.Bytes.Hex
import Allotment.Text.Blank

/-!
# Secrets

A secret is 32 bytes. As text it is 64 hexadecimal digits, with or without a mark in front and white space around, and
not all of them zero. What is shown of a secret does not depend on it.
-/

namespace Allotment

/-- The secret behind a private key. -/
structure Secret where
  bytes : Vector UInt8 32
  deriving DecidableEq

namespace Secret

/-- The secret that a text denotes. -/
def ofHex? (text : String) : Option Secret := do
  let bytes ← Hex.decode? (Hex.dropMark (Text.trimChars text.toList))
  let bytes ← Bytes.exactly? 32 bytes
  if bytes = Vector.replicate 32 0 then none else some ⟨bytes⟩

/-- Whether a text looks like a secret in digits: one mark at most, `0x`, and then digits only. -/
def looksLikeHex (text : String) : Bool :=
  let body := match Text.trimChars text.toList with
    | '0' :: 'x' :: rest => rest
    | cs => cs
  !body.isEmpty && body.all Hex.isDigit

/-- The secret in a file: as text if that is what it looks like, or else as 32 bytes. -/
def ofContents? (contents : ByteArray) : Option Secret :=
  let raw := (Bytes.exactly? 32 contents.data.toList).map Secret.mk
  match String.fromUTF8? contents with
  | some text => if looksLikeHex text then ofHex? text else raw
  | none => raw

/-- What is shown of a secret. -/
def shown (_ : Secret) : String := "SecretKeyBytes(<redacted>)"

end Secret

end Allotment
