/-!
# WebServer.Status

The status codes a response can carry, with their reason phrases.

Main statement: a status is determined by its code (`ofCode?_code`).
-/

namespace WebServer

/-- The status of a response. -/
inductive Status where
  | switchingProtocols
  | ok
  | created
  | accepted
  | noContent
  | movedPermanently
  | found
  | notModified
  | badRequest
  | unauthorized
  | forbidden
  | notFound
  | methodNotAllowed
  | requestTimeout
  | payloadTooLarge
  | upgradeRequired
  | requestHeaderFieldsTooLarge
  | internalServerError
  | serviceUnavailable
deriving DecidableEq, Inhabited

namespace Status

/-- Every status, in order of code. -/
def all : List Status := [
  .switchingProtocols, .ok, .created, .accepted, .noContent, .movedPermanently, .found,
  .notModified, .badRequest, .unauthorized, .forbidden, .notFound, .methodNotAllowed,
  .requestTimeout, .payloadTooLarge, .upgradeRequired, .requestHeaderFieldsTooLarge,
  .internalServerError, .serviceUnavailable]

/-- The three digits. -/
def code : Status → Nat
  | .switchingProtocols => 101
  | .ok => 200
  | .created => 201
  | .accepted => 202
  | .noContent => 204
  | .movedPermanently => 301
  | .found => 302
  | .notModified => 304
  | .badRequest => 400
  | .unauthorized => 401
  | .forbidden => 403
  | .notFound => 404
  | .methodNotAllowed => 405
  | .requestTimeout => 408
  | .payloadTooLarge => 413
  | .upgradeRequired => 426
  | .requestHeaderFieldsTooLarge => 431
  | .internalServerError => 500
  | .serviceUnavailable => 503

/-- The words after the digits. -/
def reason : Status → String
  | .switchingProtocols => "Switching Protocols"
  | .ok => "OK"
  | .created => "Created"
  | .accepted => "Accepted"
  | .noContent => "No Content"
  | .movedPermanently => "Moved Permanently"
  | .found => "Found"
  | .notModified => "Not Modified"
  | .badRequest => "Bad Request"
  | .unauthorized => "Unauthorized"
  | .forbidden => "Forbidden"
  | .notFound => "Not Found"
  | .methodNotAllowed => "Method Not Allowed"
  | .requestTimeout => "Request Timeout"
  | .payloadTooLarge => "Payload Too Large"
  | .upgradeRequired => "Upgrade Required"
  | .requestHeaderFieldsTooLarge => "Request Header Fields Too Large"
  | .internalServerError => "Internal Server Error"
  | .serviceUnavailable => "Service Unavailable"

/-- Whether a response of this status may carry a body at all. -/
def allowsBody : Status → Bool
  | .switchingProtocols | .noContent | .notModified => false
  | _ => true

/-- The status of a code. -/
def ofCode? (n : Nat) : Option Status := all.find? (·.code == n)

@[simp] theorem ofCode?_code (s : Status) : ofCode? s.code = some s := by
  cases s <;> decide

end Status

end WebServer
