import WebServer.Proofs.Cycle.Persistence
import WebServer.Proofs.Serve.Pipeline
import WebServer.Proofs.WebSocket.Listening

/-!
# WebServer.Proofs.Serve.Upgrade

A connection whose client switches protocols. The bytes behind the request belong to the
session, also those that were read together with the request, and none is lost.

Main statement: the handler of the session gets the messages that these bytes carry, whole,
once and in order, however request and bytes were cut into pieces, unless a line end of the
request is cut at its limit (`serve_of_upgrade`).
-/

namespace WebServer

open Filter Request WebServer.Cycle
open WebSocket.Session (recorded hearing runOpen runOpen_of_delivers)

/-! ## Later horizons -/

theorem Link.horizon_receive (l : Link) (d : Option Nat) (interrupt : Link → Bool) :
    (l.receive d interrupt).2.horizon = l.horizon :=
  receive_keeps (motive := fun l' => l'.horizon = l.horizon) d interrupt
    (fun _ ready _ h => await_keeps (motive := fun l'' => l''.horizon = l.horizon) ready d
      (fun _ _ h => h) (fun _ _ act _ _ h => (Link.horizon_perform _ act).trans h) h)
    (fun _ _ h => h) rfl

namespace Conn

variable {c : Conn} {interrupt : Link → Bool} {h : Nat}

/-- The connection, when waiting is given up for good at another time. -/
def withHorizon (c : Conn) (h : Nat) : Conn := { c with link := c.link.withHorizon h }

/-- A request that is read, or refused, is so at every later horizon. -/
theorem readRequest_withHorizon (hi : ∀ l h, interrupt (l.withHorizon h) = interrupt l)
    (hh : c.link.horizon ≤ h)
    (hread : (∃ q, (c.readRequest interrupt).1 = .request q) ∨
      ∃ e, (c.readRequest interrupt).1 = .failed (.parse e)) :
    (c.withHorizon h).readRequest interrupt =
      ((c.readRequest interrupt).1, (c.readRequest interrupt).2.withHorizon h) := by
  fun_induction readRequest c interrupt with
  | case1 c e reader hn => exact readRequest_of_error (c := c.withHorizon h) hn
  | case2 c q reader hn => exact readRequest_of_request (c := c.withHorizon h) hn
  | case3 c reader hn bs link hr ih =>
      have hreceive := Link.receive_withHorizon_of_ne_stuck hi hh
        (d := some (c.link.now + c.patience)) (by rw [hr]; simp)
      have hhorizon := Link.horizon_receive c.link (some (c.link.now + c.patience)) interrupt
      rw [hr] at hreceive hhorizon
      have hbytes := readRequest_of_bytes (c := c.withHorizon h) hn hreceive
      rw [hbytes]
      exact ih (hhorizon.trans_le hh) hread
  | case4 | case5 | case6 | case7 | case8 | case9 => simp at hread

/-- What ends the waiting for a request ends it so at every later horizon. -/
theorem fill_withHorizon (hi : ∀ l h, interrupt (l.withHorizon h) = interrupt l)
    (hh : c.link.horizon ≤ h) (hne : (c.fill interrupt).1 ≠ .stuck) :
    (c.withHorizon h).fill interrupt =
      ((c.fill interrupt).1, (c.fill interrupt).2.withHorizon h) := by
  have hreceive := Link.receive_withHorizon_of_ne_stuck hi hh (d := none)
  have hlink : (c.withHorizon h).link = c.link.withHorizon h := rfl
  rw [fill] at hne ⊢
  rw [fill, hlink]
  generalize c.link.receive none interrupt = r at hne hreceive ⊢
  obtain ⟨got, l⟩ := r
  cases got with
  | arrived a =>
      rw [hreceive (by simp)]
      cases a <;> rfl
  | interrupted =>
      rw [hreceive (by simp)]
      rfl
  | timeout | stuck => exact absurd rfl hne

end Conn

/-! ## The cycle that switches protocols -/

namespace Cycle

variable {routes : Routes} {c c' : Conn} {q : Request} {r : Response}
  {handler : WebSocket.Handler} {n : Nat} {e : ParseError} {link : Link}

/-- The response that switches protocols is all there. -/
theorem waits_of_upgrade (hplan : plan routes q = .upgrade r handler) :
    (Response.Writer.ofResponse r .stay).plan.waits = false := by
  have hleads := leadsTo_plan routes q
  rw [hplan] at hleads
  cases hleads with
  | upgrade _ hstatus =>
      have hempty : (Response.Writer.ofResponse r .stay).framing = .empty :=
        congrArg Prod.fst (Response.Writer.frame_of_not_allowsBody (by rw [hstatus]; rfl))
      rw [Response.Writer.plan, hempty]

/-- A request that switches protocols, once its response is sent, hands the connection
over as it is. -/
theorem run_of_upgrade (hread : c.readRequest isOver = (.request q, c'))
    (hplan : plan routes q = .upgrade r handler)
    (hsent : Conn.writeResponse c'.link (.ofResponse r .stay) isOver = (.sent n, link)) :
    run routes c = (.upgrade handler, { c' with link }) := by
  simp only [run, hread, answer, hplan, hsent]

/-- A request that is refused is told so, and ends the connection. -/
theorem run_of_refused (hread : c.readRequest isOver = (.failed (.parse e), c'))
    (hs : c'.link.sink.stall = none) :
    ∃ sink, run routes c = (.close, { c' with link := { c'.link with sink } }) := by
  obtain ⟨r, hr, hwhole⟩ : ∃ r, (ReadError.parse e).response? = some r ∧ r.IsWhole := by
    cases e <;> exact ⟨_, rfl, fun _ h => Body.noConfusion h⟩
  have hwaits : (Response.Writer.ofResponse r (announced r .closing)).plan.waits = false :=
    Response.Writer.waits_ofResponse hwhole
  obtain ⟨w, sink, hstuck, _, _, hwrite⟩ := Conn.concludes_writeResponse isOver hs hwaits
  have hclosing : (Response.Writer.ofResponse r (announced r .closing)).keepAlive = false := by
    rw [Response.Writer.keepAlive_ofResponse, announced]
    split <;> rfl
  refine ⟨sink, ?_⟩
  simp only [run, hread, hr, respond_eq, hwrite c'.link rfl]
  cases w <;> simp_all [Plan.finish, Plan.writer, Plan.response, Plan.exchange]

end Cycle

namespace Service

variable {s s' : Service} {h : Nat}

/-- The service, when waiting is given up for good at another time. -/
def withHorizon (s : Service) (h : Nat) : Service := { s with conn := s.conn.withHorizon h }

theorem claim_withHorizon (s : Service) (h : Nat) :
    (s.withHorizon h).claim = (s.claim.1, s.claim.2.withHorizon h) := rfl

/-- A connection that is claimed is claimed at every later horizon. -/
theorem prepare_withHorizon (hh : s.conn.link.horizon ≤ h) (hgo : s.prepare = (.go, s')) :
    (s.withHorizon h).prepare = (.go, s'.withHorizon h) := by
  let interrupt : Link → Bool := fun l => l.sock.isClosed || l.shutdown
  have hfill : (s.conn.fill interrupt).1 ≠ .stuck → (s.conn.withHorizon h).fill interrupt =
      ((s.conn.fill interrupt).1, (s.conn.fill interrupt).2.withHorizon h) :=
    Conn.fill_withHorizon (fun _ _ => rfl) hh
  have hbuf : (s.withHorizon h).conn.reader.hasBuffered = s.conn.reader.hasBuffered := rfl
  have hconn : (s.withHorizon h).conn = s.conn.withHorizon h := rfl
  unfold prepare at hgo ⊢
  rw [hbuf, hconn]
  by_cases hb : s.conn.reader.hasBuffered = true
  · rw [if_pos hb] at hgo ⊢
    rw [claim_withHorizon, hgo]
  · rw [if_neg hb] at hgo ⊢
    generalize s.conn.fill interrupt = r at hgo hfill
    obtain ⟨got, conn⟩ := r
    match got with
    | .filled 0 | .failed | .interrupted | .stuck => simp at hgo
    | .filled (n + 1) =>
        have hclaim : claim { s with conn } = (.go, s') := hgo
        rw [hfill (by simp)]
        exact (claim_withHorizon _ h).trans (by rw [hclaim])

/-! ## Workers -/

/-- Whenever a cycle begins a worker is free for it, if a pool runs the cycles. -/
def HasWorker (s : Service) : Prop :=
  ∀ pool, s.pool = some pool → ∀ now,
    ((pool.advanceTo now).submit cycleLabel .gated).1 ≠ .rejected ∧
      let pool := ((pool.advanceTo now).submit cycleLabel .gated).2
      pool.pool.isRunning (pool.jobs.length - 1) = true

/-- With a worker a cycle is run. -/
theorem runCycle_of_hasWorker (cfg : ServeConfig) (h : s.HasWorker) :
    ∃ pool, runCycle cfg s = (.ran (Cycle.run cfg.routes s.conn).1,
      { conn := (Cycle.run cfg.routes s.conn).2, pool }) := by
  unfold runCycle
  cases hpool : s.pool with
  | none => exact ⟨none, rfl⟩
  | some pool =>
      obtain ⟨hadmitted, hruns⟩ := h pool hpool s.conn.link.now
      dsimp only
      rw [if_neg hadmitted, if_pos hruns]
      exact ⟨_, rfl⟩

/-! ## The first cycle -/

variable {cfg : ServeConfig} {limits : Limits} {last : Nat} {bs r w : Bytes} {q : Request}
  {resp : Response} {handler : WebSocket.Handler} {conn : Conn} {n : Nat}

/-- An open connection, not claimed by a cycle, that holds or is still to receive exactly these
bytes. Its client does not stall, nobody interferes, and there are workers. -/
structure Faces (limits : Limits) (last : Nat) (bs : Bytes) (s : Service) : Prop where
  awaits : s.conn.Awaits limits last bs
  isWaiting : s.conn.link.sock.state.isWaiting = true
  running : s.conn.link.shutdown = false
  stall : s.conn.link.sink.stall = none
  last_le : last ≤ s.conn.link.horizon
  hasWorker : s.HasWorker

/-- The connection when its cycle has been released. -/
def released (c : Conn) : Conn :=
  { c with link := { c.link with
      sock := { c.link.sock.touch c.link.now with state := .idle } } }

/-- A connection whose first cycle switches protocols is released to a session. -/
theorem serve_of_run_upgrade (hgo : s.prepare = (.go, s')) (hw : s'.HasWorker)
    (hrun : Cycle.run cfg.routes s'.conn = (.upgrade handler, conn))
    (hstate : conn.link.sock.state = .processing) :
    ∃ pool, serve cfg s = runSession cfg { conn := released conn, pool } handler := by
  obtain ⟨pool, hcycle⟩ := runCycle_of_hasWorker cfg hw
  rw [hrun] at hcycle
  have hrelease := release_of_processing (s := { conn, pool }) hstate
  refine ⟨pool, ?_⟩
  rw [serve, serveWithin, hgo]
  dsimp only
  rw [hcycle]
  dsimp only
  rw [hrelease]
  rfl

/-- A connection whose first cycle ends it is closed. -/
theorem serve_of_run_close (hgo : s.prepare = (.go, s')) (hw : s'.HasWorker)
    (hrun : Cycle.run cfg.routes s'.conn = (.close, conn)) :
    ∃ pool, serve cfg s = ({ conn, pool } : Service).close := by
  obtain ⟨pool, hcycle⟩ := runCycle_of_hasWorker cfg hw
  rw [hrun] at hcycle
  refine ⟨pool, ?_⟩
  rw [serve, serveWithin, hgo]
  dsimp only
  rw [hcycle]

/-- Of a session whose handler hears the client out the connection is served to its end. -/
theorem runSession_of_delivers (cfg : ServeConfig) (hh : handler.HearsOut)
    (hl : conn.link.Delivers last bs) (hw : conn.link.sock.state.isWaiting = true)
    (hs : conn.link.sink.stall = none) :
    ∀ᶠ h in atTop, ∀ pool, ∃ s',
      runSession cfg { conn := conn.withHorizon h, pool } handler = (true, s') ∧
      s'.conn.link.calls = conn.link.calls ++
        recorded { handler, limit := cfg.messageLimit, patience := conn.patience }
          (hearing cfg.messageLimit (conn.reader.buffer ++ bs)) := by
  let session : WebSocket.SessionConfig :=
    { handler, limit := cfg.messageLimit, patience := conn.patience }
  have hheard : session.handler.HearsOut := hh
  filter_upwards [runOpen_of_delivers hheard hl hw hs] with h hrun pool
  have hopen : (conn.link.withHorizon h).sock.isClosed = false := Sock.isClosed_of_isWaiting hw
  generalize hended : runOpen session conn.reader.buffer (conn.link.withHorizon h) = ended at hrun
  obtain ⟨done, o⟩ := ended
  obtain ⟨rfl, hcalls⟩ := hrun
  have hsession : WebSocket.Session.run session conn.reader.buffer false
      (conn.link.withHorizon h) = (true, o.link) := by
    rw [WebSocket.Session.run, hopen, Bool.or_false, if_neg Bool.false_ne_true, hended]
  refine ⟨({ conn, pool } : Service).onLink fun _ => o.link.closeSock, ?_, hcalls⟩
  rw [runSession]
  dsimp only [Conn.withHorizon]
  rw [hsession]
  rfl

/-! ## The whole connection -/

/-- The service when a cycle has claimed its connection. Else it is as before. -/
structure Claims (limits : Limits) (last : Nat) (bs : Bytes) (s s' : Service) : Prop where
  prepare_eq : s.prepare = (.go, s')
  awaits : s'.conn.Awaits limits last bs
  state_eq : s'.conn.link.sock.state = .processing
  sink_eq : s'.conn.link.sink = s.conn.link.sink
  horizon_eq : s'.conn.link.horizon = s.conn.link.horizon
  calls_eq : s'.conn.link.calls = s.conn.link.calls
  hasWorker : s'.HasWorker

theorem Faces.claims (hs : s.Faces limits last bs) (hb : bs ≠ []) :
    ∃ s', s.Claims limits last bs s' := by
  obtain ⟨conn, hprepare, ⟨hsound, hlimits, rest, hrest, hdel⟩, hsame, _⟩ :=
    prepare_of_awaits hs.awaits hb hs.isWaiting hs.running hs.last_le
  exact ⟨_, hprepare, ⟨hsound, hlimits, rest, hrest, hdel.congr rfl rfl rfl rfl⟩, rfl,
    hsame.sink, hsame.horizon, congrArg (List.filter Event.isHook) hsame.events_eq, hs.hasWorker⟩

variable {c' : Conn} {e : ParseError} {bs' : Bytes}

/-- What is read of the client after claiming is read at every later horizon. -/
theorem Claims.readRequest_withHorizon {got : Conn.ReadEnd} (hc : s.Claims limits last bs s')
    (hh : s.conn.link.horizon ≤ h) (hread : s'.conn.readRequest isOver = (got, c'))
    (hgot : (∃ q, got = .request q) ∨ ∃ e, got = .failed (.parse e)) :
    (s'.withHorizon h).conn.readRequest isOver = (got, c'.withHorizon h) := by
  have hlater := Conn.readRequest_withHorizon (fun _ _ => rfl) (hc.horizon_eq.trans_le hh)
    (by rw [hread]; exact hgot)
  rw [hread] at hlater
  exact hlater

/-- Once its request is read, the connection is handed to a session, and the bytes behind the
request are heard out. -/
theorem Claims.serve_of_request (hc : s.Claims limits last bs s') (hh : handler.HearsOut)
    (hstall : s.conn.link.sink.stall = none) (hplan : plan cfg.routes q = .upgrade resp handler)
    (hsent : (Conn.writeResponse s.conn.link (.ofResponse resp .stay) isOver).1 = .sent n)
    (hread : s'.conn.readRequest isOver = (.request q, c')) (hw : c'.Awaits limits last w)
    (hsame : s'.conn.link.SameServer c'.link) :
    ∀ᶠ h in atTop, ∃ s', serve cfg (s.withHorizon h) = (true, s') ∧
      s'.conn.link.calls = s.conn.link.calls ++
        recorded { handler, limit := cfg.messageLimit, patience := s.conn.patience }
          (hearing cfg.messageLimit w) := by
  obtain ⟨_, _, rest, rfl, hdel⟩ := hw
  obtain ⟨e, sink, _, _, hstall', hwrite⟩ :=
    Conn.concludes_writeResponse isOver hstall (waits_of_upgrade hplan)
  obtain rfl : e = .sent n := (congrArg Prod.fst (hwrite _ rfl)).symm.trans hsent
  let conn : Conn := { c' with link := { c'.link with sink } }
  have hstate : conn.link.sock.state = .processing :=
    (congrArg Sock.state hsame.sock).trans hc.state_eq
  have hdel' : (released conn).link.Delivers last rest := hdel.congr rfl rfl rfl rfl
  have hcalls : (released conn).link.calls = s.conn.link.calls :=
    (congrArg (List.filter Event.isHook) hsame.events_eq).trans hc.calls_eq
  filter_upwards [runSession_of_delivers cfg hh hdel' rfl hstall',
    eventually_ge_atTop s.conn.link.horizon] with h hsession hle
  have hread' := hc.readRequest_withHorizon hle hread (.inl ⟨q, rfl⟩)
  have hsink : (c'.withHorizon h).link.sink = s.conn.link.sink := hsame.sink.trans hc.sink_eq
  obtain ⟨pool, hserve⟩ := serve_of_run_upgrade (prepare_withHorizon hle hc.prepare_eq)
    hc.hasWorker (run_of_upgrade hread' hplan (hwrite _ hsink)) hstate
  obtain ⟨s', hs', hheard⟩ := hsession pool
  rw [hcalls] at hheard
  exact ⟨s', hserve.trans hs', hheard⟩

/-- Once its request is refused, the connection is closed. No more is read, and no hook is
called. -/
theorem Claims.serve_of_refused (cfg : ServeConfig) (hc : s.Claims limits last bs s')
    (hstall : s.conn.link.sink.stall = none)
    (hread : s'.conn.readRequest isOver = (.failed (.parse e), c'))
    (hsame : s'.conn.link.SameServer c'.link) (hdel : c'.link.Delivers last bs') :
    ∀ᶠ h in atTop, ∃ s', serve cfg (s.withHorizon h) = (true, s') ∧
      s'.conn.link.Delivers last bs' ∧ s'.conn.link.calls = s.conn.link.calls := by
  have hcalls : c'.link.calls = s.conn.link.calls :=
    (congrArg (List.filter Event.isHook) hsame.events_eq).trans hc.calls_eq
  filter_upwards [eventually_ge_atTop s.conn.link.horizon] with h hle
  have hread' := hc.readRequest_withHorizon hle hread (.inr ⟨e, rfl⟩)
  have hstall' : (c'.withHorizon h).link.sink.stall = none :=
    (congrArg Sink.stall (hsame.sink.trans hc.sink_eq)).trans hstall
  obtain ⟨sink, hrun⟩ := run_of_refused hread' hstall'
  obtain ⟨pool, hserve⟩ :=
    serve_of_run_close (prepare_withHorizon hle hc.prepare_eq) hc.hasWorker hrun
  exact ⟨_, hserve, hdel.congr rfl rfl rfl rfl, hcalls⟩

/-- **Switching protocols loses no byte.** A connection is to receive a request that switches
protocols and then more bytes, in whatever pieces, and the response to the request goes out. If
the handler hears the client out, its calls are the opening, the messages that the bytes behind
the request carry, whole, once and in order, and the end with its code. Only when a beginning
of the request that is cut at its limit is read alone, the request is refused instead; then no
more is read, and the handler is not called. -/
theorem serve_of_upgrade (cfg : ServeConfig) (hr : parse r limits = .ok (q, r.length))
    (hplan : plan cfg.routes q = .upgrade resp handler) (hh : handler.HearsOut)
    (hs : s.Faces limits last (r ++ w))
    (hsent : (Conn.writeResponse s.conn.link (.ofResponse resp .stay) isOver).1 = .sent n)
    (htime : timesOut cfg s = false) :
    (∀ᶠ h in atTop, ∃ s', serve cfg (s.withHorizon h) = (true, s') ∧
      s'.conn.link.calls = s.conn.link.calls ++
        recorded { handler, limit := cfg.messageLimit, patience := s.conn.patience }
          (hearing cfg.messageLimit w)) ∨
    ∃ p unread, r = p ++ unread ∧ unread ≠ [] ∧ CutAtLimit limits p ∧
      ∀ᶠ h in atTop, ∃ s', serve cfg (s.withHorizon h) = (true, s') ∧
        s'.conn.link.Delivers last (unread ++ w) ∧
        s'.conn.link.calls = s.conn.link.calls := by
  have hne : r ++ w ≠ [] := by
    have hpos := (le_of_parse hr).1
    intro hnil
    rw [(List.append_eq_nil_iff.1 hnil).1, List.length_nil] at hpos
    omega
  obtain ⟨s₁, hc⟩ := hs.claims hne
  have htime₁ : (s₁.conn.readRequest isOver).1 ≠ .failed .timeout := by
    rw [timesOut, timesOutWithin, hc.prepare_eq] at htime
    simp only [Bool.or_eq_false_iff, decide_eq_false_iff_not] at htime
    exact htime.1
  have hover : ∀ l', s₁.conn.link.SameServer l' → isOver l' = false := by
    intro l' hsame
    rw [isOver, hsame.sock, Sock.isClosed, hc.state_eq]
    rfl
  obtain ⟨c', hread, hw, hsame, _⟩ | ⟨e, k, c', hk, hcut, hread, hsame, hdel⟩ :=
    Conn.readRequest_of_awaits_or_cut hc.awaits hr hover (hc.horizon_eq ▸ hs.last_le) htime₁
  · exact .inl (hc.serve_of_request hh hs.stall hplan hsent hread hw hsame)
  · refine .inr ⟨r.take k, r.drop k, (List.take_append_drop k r).symm, ?_, hcut,
      hc.serve_of_refused cfg hs.stall hread hsame hdel⟩
    rw [← List.length_pos_iff, List.length_drop]
    omega

/-- Routes to a handler that only listens. -/
def listenerRoutes : Routes where
  contextPath := ""
  exact := [("/ws", .socket { name := "listener" })]
  directories := []
  extensions := []
  fallback := none
  interceptors := []

/-- The first piece ends in the request and the second in a frame behind it. The message comes
in two frames with a ping between them, and the client closes with a code. -/
theorem serve_of_upgrade_in_three_pieces :
    let r := utf8 ("GET /ws HTTP/1.1\r\nUpgrade: websocket\r\nConnection: Upgrade\r\n" ++
      "Sec-WebSocket-Version: 13\r\nSec-WebSocket-Key: dGhlIHNhbXBsZSBub25jZQ==\r\n\r\n")
    let q : Request :=
      { method := .get, path := "/ws"
        headers := ⟨[("Upgrade", "websocket"), ("Connection", "Upgrade"),
          ("Sec-WebSocket-Version", "13"),
          ("Sec-WebSocket-Key", "dGhlIHNhbXBsZSBub25jZQ==")]⟩ }
    let fs : List WebSocket.Frame :=
      [{ WebSocket.Frame.text "hel" with fin := false }, .ping [1],
        { WebSocket.Frame.text "lo" with opcode := .continuation }, .close 3000 "bye"]
    let w := fs.flatMap fun f => f.encode (some ⟨1, 2, 3, 4⟩)
    let cfg : ServeConfig := { routes := listenerRoutes, messageLimit := 100 }
    let s : Service :=
      { pool := none
        conn :=
          { reader := { limits := {} }
            patience := 25
            link :=
              { timeline :=
                  [(1, .bytes (r.take 50)), (20, .bytes (r.drop 50 ++ w.take 3)),
                    (40, .bytes (w.drop 3)), (90, .eof)] } } }
    parse r {} = .ok (q, r.length) ∧ s.Faces {} 90 (r ++ w) ∧ timesOut cfg s = false ∧
      ∃ resp, plan listenerRoutes q = .upgrade resp { name := "listener" } ∧
        (Conn.writeResponse s.conn.link (.ofResponse resp .stay) isOver).1 = .sent 0 ∧
        ∀ᶠ h in atTop, ∃ s', serve cfg (s.withHorizon h) = (true, s') ∧
          s'.conn.link.calls =
            [.opened, .delivered (.message (.text "hello")), .ended 3000 true] := by
  intro r q fs w cfg s
  let handler : WebSocket.Handler := { name := "listener" }
  let resp : Response :=
    .withBody .switchingProtocols
      (((Headers.empty.insert "Upgrade" "websocket").insert "Connection" "Upgrade").insert
        "Sec-WebSocket-Accept" "s3pPLMBiTxaQ9kYGzzhZRbK+xOo=") []
  have hr : parse r {} = .ok (q, r.length) := by decide +kernel
  have hplan : plan listenerRoutes q = .upgrade resp handler := by
    obtain ⟨p, hresolve⟩ : ∃ p,
        listenerRoutes.resolve q.path = some ⟨.socket handler, p, []⟩ := ⟨_, rfl⟩
    have hupgrade : WebSocket.Handshake.isUpgrade q = true := by decide +kernel
    have hresponse : WebSocket.Handshake.response q = .ok resp := by decide +kernel
    simp only [plan, hresolve, hupgrade, hresponse]
    rfl
  have hhears : handler.HearsOut :=
    { takes := fun kind => by cases kind <;> rfl
      whole := rfl
      onOpen := rfl
      onDelivery := fun _ _ => rfl
      onClose := fun _ => rfl
      sends := ⟨trivial, fun _ _ => trivial, fun _ => trivial⟩ }
  have hfaces : s.Faces {} 90 (r ++ w) := by
    refine ⟨⟨Reader.sound_fresh {}, rfl, r ++ w, rfl, ?_⟩, rfl, rfl, rfl, by decide, ?_⟩
    · have hsplit : r ++ w = r.take 50 ++ ((r.drop 50 ++ w.take 3) ++ (w.drop 3 ++ [])) := by
        simp only [List.append_nil, List.append_assoc, List.take_append_drop]
        rw [← List.append_assoc, List.take_append_drop]
      rw [hsplit]
      exact .sending rfl (.piece (by decide) (by decide) (by decide +kernel)
        (.piece (by decide) (by decide) (by decide +kernel)
          (.piece (by decide) (by decide) (by decide +kernel)
            (.leaves (by decide) (by decide)))))
    · intro pool hpool
      contradiction
  have htime : timesOut cfg s = false := by decide +kernel
  have hsent : (Conn.writeResponse s.conn.link (.ofResponse resp .stay) isOver).1 = .sent 0 := by
    decide +kernel
  refine ⟨hr, hfaces, htime, resp, hplan, hsent, ?_⟩
  obtain hserve | ⟨p, unread, hunread, _, hcut, _⟩ :=
    serve_of_upgrade cfg hr hplan hhears hfaces hsent htime
  · have hhearing : s.conn.link.calls ++ hearing 100 w =
        [.opened, .delivered (.message (.text "hello")), .ended 3000 true] := by decide +kernel
    filter_upwards [hserve] with h ⟨s', hs', hcalls⟩
    exact ⟨s', hs', hcalls.trans hhearing⟩
  · have hroomy : isRoomy {} r = true := by decide +kernel
    rw [hunread] at hr hroomy
    exact absurd hcut (not_cutAtLimit_of_isRoomy hr hroomy)

end Service

end WebServer
