import Terradoc.Digest.Md5
import Terradoc.Digest.Sha256
import Terradoc.Digest.Sha512
import Terradoc.Function.Text
import Terradoc.Text.Percent

namespace Terradoc.Functions

def decodeBase64 (text : String) : Except CallFault Value :=
  match Text.Base64.decode (Text.toBytes text) with
  | .error cause => .error (.base64 cause)
  | .ok bytes =>
    match Text.decode bytes with
    | .ok decoded => .ok (.string decoded)
    | .error cause => .error (.utf8 cause)

def digestOf (digest : List UInt8 → List UInt8) (write : List UInt8 → String) : Function :=
  onText fun text => .ok (.string (write (digest (Text.toBytes text))))

/-- A function without arguments whose value only applying the configuration would tell. -/
def undetermined (name : String) : Function :=
  ⟨[], none, false, fun () => .ok (.unresolved (name ++ "()") name)⟩

/-- Encodings and digests by name. -/
def encodingFunctions : Entries Function := [
  ("base64encode", onText fun text => .ok (.string (Text.Base64.encode (Text.toBytes text)))),
  ("base64decode", onText decodeBase64),
  ("urlencode", onText fun text => .ok (.string (Text.percentEncode text))),
  ("md5", digestOf Digest.Md5.digest Digest.hex),
  ("sha256", digestOf Digest.Sha256.digest Digest.hex),
  ("sha512", digestOf Digest.Sha512.digest Digest.hex),
  ("base64sha256", digestOf Digest.Sha256.digest Text.Base64.encode),
  ("base64sha512", digestOf Digest.Sha512.digest Text.Base64.encode),
  ("uuid", undetermined "uuid")]

end Terradoc.Functions
