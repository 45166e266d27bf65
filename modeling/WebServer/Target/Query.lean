import WebServer.Text.Lossy
import WebServer.Text.Split

/-!
# WebServer.Target.Query

The parameters of a query string: `name=value` pairs joined by ampersands, with
plus signs for spaces and percent coding for the rest.
-/

namespace WebServer

namespace Query

/-- A name or value as it was before coding. -/
def decodeItem (cs : List Char) : String :=
  lossyText (percentDecode (utf8 (String.ofList (cs.map fun c => if c = '+' then ' ' else c))))

/-- The pair that one item between ampersands denotes. -/
def decodePair (item : List Char) : String × String :=
  match splitOnce '=' item with
  | some (k, v) => (decodeItem k, decodeItem v)
  | none => (decodeItem item, "")

/-- The parameters of a query, in order; empty items denote none. -/
def params (query : String) : List (String × String) :=
  ((query.toList.splitOn '&').filter fun i => !i.isEmpty).map decodePair

/-- The value of the first parameter of a name. -/
def param? (query name : String) : Option String :=
  ((params query).find? fun p => p.1 == name).map (·.2)

end Query

end WebServer
