import WebServer.Conn
import WebServer.Endpoint
import WebServer.WebSocket.Handshake

/-!
# WebServer.Cycle

One request cycle: read a request, find its route, run the chain or answer the
handshake, and write the response. A cycle that writes its response keeps the
connection if both sides want to; one that is disturbed closes it. Closing the
sock ends a cycle that waits.
-/

namespace WebServer

/-- How a cycle leaves the connection. -/
inductive CycleEnd where
  /-- The next request may come. -/
  | keepAlive
  | close
  /-- The client switched protocols. -/
  | upgrade (h : WebSocket.Handler)
  /-- The cycle waits for ever. -/
  | stuck

namespace CycleEnd

/-- The name under which an end is shown. -/
def name : CycleEnd → String
  | .keepAlive => "KeepAlive"
  | .close => "Close"
  | .upgrade _ => "Upgrade"
  | .stuck => "stuck"

end CycleEnd

namespace Cycle

/-- The response to a plain request on a path for sessions. -/
def upgradeRequired : Response :=
  .withBody .upgradeRequired
    ((Headers.empty.insert "Upgrade" "websocket").insert "Content-Type" "text/plain")
    (utf8 "426 Upgrade Required")

/-- What a request leads to. -/
inductive Plan where
  /-- A response that is ready. -/
  | respond (r : Response) (ex : Exchange)
  /-- A chain to run. -/
  | run (chain : ChainRun) (ex : Exchange)
  /-- A handshake that succeeds. -/
  | upgrade (r : Response) (h : WebSocket.Handler)

/-- Finds out what a request leads to. -/
def plan (routes : Routes) (q : Request) : Plan :=
  let ex := Exchange.ofRequest q
  match routes.resolve q.path with
  | none => .respond .notFound ex
  | some r =>
      match r.endpoint with
      | .http _ => .run (r.execute q) ex
      | .socket h =>
          if !WebSocket.Handshake.isUpgrade q then .respond upgradeRequired ex
          else
            match WebSocket.Handshake.response q with
            | .ok r => .upgrade r h
            | .error e => .respond e.response .closing

/-- Whether the sock is closed, which ends a cycle. -/
def isOver (l : Link) : Bool := l.sock.isClosed

/-- Writes a response; one that announces the end of the connection ends it. -/
def respond (l : Link) (r : Response) (ex : Exchange) : CycleEnd × Link :=
  let ex := if r.headers.hasToken "Connection" "close" then { ex with keepAlive := false } else ex
  let w := Response.Writer.ofResponse r ex
  match Conn.writeResponse l w isOver with
  | (.sent _, l) => (if w.keepAlive then .keepAlive else .close, l)
  | (.stuck, l) => (.stuck, l)
  | (.failed _, l) | (.interrupted, l) => (.close, l)

/-- Runs a chain: its calls are recorded, the handler takes its time, and the
response is written. -/
def runChain (l : Link) (run : ChainRun) (ex : Exchange) : CycleEnd × Link :=
  let l := l.logVisits run.visits
  if run.delay = 0 then respond l run.outcome.toResponse ex
  else
    match l.await (fun l => if isOver l then some () else none) (some (l.now + run.delay)) with
    | (.ready (), l) => (.close, l)
    | (.timeout, l) => respond l run.outcome.toResponse ex
    | (.stuck, l) => (.stuck, l)

/-- Answers a request. -/
def answer (routes : Routes) (l : Link) (q : Request) : CycleEnd × Link :=
  match plan routes q with
  | .respond r ex => respond l r ex
  | .run chain ex => runChain l chain ex
  | .upgrade r h =>
      match Conn.writeResponse l (Response.Writer.ofResponse r .stay) isOver with
      | (.sent _, l) => (.upgrade h, l)
      | (.stuck, l) => (.stuck, l)
      | (.failed _, l) | (.interrupted, l) => (.close, l)

/-- Runs one cycle. -/
def run (routes : Routes) (c : Conn) : CycleEnd × Conn :=
  match c.readRequest isOver with
  | (.request q, c) =>
      let (e, link) := answer routes c.link q
      (e, { c with link })
  | (.clean, c) | (.interrupted, c) => (.close, c)
  | (.stuck, c) => (.stuck, c)
  | (.failed e, c) =>
      match e.response? with
      | none => (.close, c)
      | some r =>
          let (e, link) := respond c.link r .closing
          (e, { c with link })

/-- Runs cycles as long as they keep the connection and the sock can be claimed,
at most `n` of them; tells how they ended. -/
def runMany (routes : Routes) : Nat → Conn → List CycleEnd × Conn
  | 0, c => ([], c)
  | n + 1, c =>
      match c.link.onSock Sock.beginCycle with
      | (false, link) => ([], { c with link })
      | (true, link) =>
          match run routes { c with link } with
          | (.keepAlive, c) =>
              match c.link.onSock (Sock.endCycle · c.link.now) with
              | (false, link) => ([.keepAlive], { c with link })
              | (true, link) =>
                  let (ends, c) := runMany routes n { c with link }
                  (.keepAlive :: ends, c)
          | (e, c) => ([e], c)

/-- Runs cycles until one does not keep the connection, or the sock cannot be
claimed. Each takes bytes, so their number is a bound. -/
def runAll (routes : Routes) (c : Conn) : List CycleEnd × Conn :=
  runMany routes (c.reader.buffer.length + c.link.supply + 1) c

end Cycle

end WebServer
