import WebServer.Digest.Base64
import WebServer.Digest.Sha1
import WebServer.Request
import WebServer.Response
import WebServer.Text.Quoted

/-!
# WebServer.WebSocket.Handshake

The opening handshake: a GET request asks for an upgrade and sends a key, and
the response proves with a digest of the key that it was understood.
-/

namespace WebServer

namespace WebSocket

namespace Handshake

/-- What is appended to a key before it is digested. -/
def guid : String := "258EAFA5-E914-47DA-95CA-C5AB0DC85B11"

/-- The version of the protocol. -/
def version : String := "13"

/-- Why a handshake is refused. -/
inductive Error where
  | notGet
  | missingUpgrade
  | missingConnectionUpgrade
  | unsupportedVersion (version : Option String)
  | missingKey
  | invalidKey
deriving DecidableEq, Repr

/-- The wording of a refusal. -/
def Error.message : Error → String
  | .notGet => "upgrade requests must use GET"
  | .missingUpgrade => "missing `Upgrade: websocket` header"
  | .missingConnectionUpgrade => "`Connection` header does not contain `upgrade`"
  | .unsupportedVersion none => "unsupported WebSocket version None"
  | .unsupportedVersion (some v) => "unsupported WebSocket version Some(" ++ quoted v ++ ")"
  | .missingKey => "missing Sec-WebSocket-Key"
  | .invalidKey => "Sec-WebSocket-Key is not a base64 encoded 16-byte nonce"

/-- The response to a handshake that is refused. -/
def Error.response (e : Error) : Response :=
  let h := Headers.empty.insert "Content-Type" "text/plain"
  let h := match e with
    | .unsupportedVersion _ => h.insert "Sec-WebSocket-Version" version
    | _ => h
  .withBody .badRequest h (utf8 e.message)

/-- Whether a request asks for the WebSocket protocol. -/
def isUpgrade (r : Request) : Bool :=
  r.headers.hasToken "Upgrade" "websocket" && r.headers.hasToken "Connection" "upgrade"

/-- The proof that a key was understood. -/
def acceptKey (key : String) : String :=
  String.ofList (Base64.encode (Sha1.digest (utf8 (trimText key) ++ utf8 guid)))

/-- Whether a key is sixteen bytes in Base64. -/
def isNonce (key : String) : Bool :=
  match Base64.decode? key.toList with
  | some bs => bs.length = 16
  | none => false

/-- Checks a request for an upgrade and gives the proof for its key. -/
def validate (r : Request) : Except Error String :=
  if r.method ≠ .get then .error .notGet
  else if !r.headers.hasToken "Upgrade" "websocket" then .error .missingUpgrade
  else if !r.headers.hasToken "Connection" "upgrade" then .error .missingConnectionUpgrade
  else
    let v := (r.headers.get? "Sec-WebSocket-Version").map trimText
    if v ≠ some version then .error (.unsupportedVersion v)
    else
      match (r.headers.get? "Sec-WebSocket-Key").map trimText with
      | none => .error .missingKey
      | some key => if isNonce key then .ok (acceptKey key) else .error .invalidKey

/-- The response that switches protocols. -/
def response (r : Request) : Except Error Response :=
  (validate r).map fun accept =>
    .withBody .switchingProtocols
      (((Headers.empty.insert "Upgrade" "websocket").insert "Connection" "Upgrade").insert
        "Sec-WebSocket-Accept" accept) []

end Handshake

end WebSocket

end WebServer
