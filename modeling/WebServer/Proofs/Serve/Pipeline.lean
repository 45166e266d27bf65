import WebServer.Proofs.Cycle.Answer
import WebServer.Serve
import WebServer.SockTable

/-!
# WebServer.Proofs.Serve.Pipeline

Requests that follow each other on one connection. However their bytes are cut into
pieces, the connection is answered request by request, in order, up to the first
response after which it does not stay open; then it is closed, and nothing more is
read, called or written.

Main statement: `serve_of_pipelined`.
-/

namespace WebServer

open Request WebServer.Cycle

namespace Service

variable {cfg : ServeConfig} {limits : Limits} {last busy : Nat}
  {claimed : Bool} {s : Service} {bs w after : Bytes} {q : Request}

/-! ## The steps of serving -/

/-- An open connection without a pool that is to receive exactly these bytes; a
cycle has claimed it, or it waits. The answers take at most `busy` milliseconds. -/
structure Live (limits : Limits) (last : Nat) (claimed : Bool) (busy : Nat)
    (s : Service) (bs : Bytes) : Prop where
  pool : s.pool = none
  awaits : s.conn.Awaits limits last bs
  ne_closed : s.conn.link.sock.state ≠ .closed
  isWaiting : s.conn.link.sock.state.isWaiting = !claimed
  running : s.conn.link.shutdown = false
  isOpen : s.conn.link.sink.IsOpen
  now_le : s.conn.link.now + busy ≤ s.conn.link.horizon
  last_le : last + busy ≤ s.conn.link.horizon

/-- What a connection has written, and what was called. -/
def record (s : Service) : Bytes × List Event := (s.conn.link.sink.output, s.conn.link.events)

theorem record_of_sameServer {conn : Conn} (h : s.conn.link.SameServer conn.link) :
    ({ s with conn } : Service).record = s.record := by
  simp only [record, h.sink, h.events_eq]

theorem Live.not_over (h : s.Live limits last claimed busy bs) (l' : Link)
    (hl : s.conn.link.SameServer l') : isOver l' = false := by
  rw [isOver, hl.sock, Sock.isClosed]
  simp [h.ne_closed]

theorem Live.not_interrupted (h : s.Live limits last claimed busy bs) (l' : Link)
    (hl : s.conn.link.SameServer l') : (l'.sock.isClosed || l'.shutdown) = false := by
  have hover := h.not_over l' hl
  rw [isOver] at hover
  rw [hover, hl.shutdown, h.running]
  rfl

/-- Only the client has moved. -/
theorem Live.congr {conn : Conn} {bs' : Bytes} (h : s.Live limits last claimed busy bs)
    (hsame : s.conn.link.SameServer conn.link) (hawaits : conn.Awaits limits last bs')
    (hnow : conn.link.now ≤ max s.conn.link.now last) :
    ({ s with conn } : Service).Live limits last claimed busy bs' where
  pool := h.pool
  awaits := hawaits
  ne_closed := by rw [hsame.sock]; exact h.ne_closed
  isWaiting := by rw [hsame.sock]; exact h.isWaiting
  running := hsame.shutdown.trans h.running
  isOpen := by rw [hsame.sink]; exact h.isOpen
  now_le := by
    have hn := h.now_le
    have hl := h.last_le
    rw [hsame.horizon]
    show conn.link.now + busy ≤ _
    omega
  last_le := by rw [hsame.horizon]; exact h.last_le

/-- A change of the sock that does not close it leaves all else alone. -/
theorem Live.withSock {sock : Sock} {claimed' : Bool}
    (h : s.Live limits last claimed busy bs) (hc : sock.state ≠ .closed)
    (hw : sock.state.isWaiting = !claimed') :
    (s.onLink fun l => { l with sock }).Live limits last claimed' busy bs := by
  obtain ⟨hs, hlim, rest, hrest, hdel⟩ := h.awaits
  exact ⟨h.pool, ⟨hs, hlim, rest, hrest, hdel.congr rfl rfl rfl rfl⟩, hc, hw, h.running, h.isOpen,
    h.now_le, h.last_le⟩

/-- The service when its connection is claimed. -/
def inCycle (s : Service) : Service :=
  s.onLink fun l => { l with sock := { l.sock with state := .processing } }

/-- A waiting connection can be claimed. -/
theorem claim_of_isWaiting (h : s.conn.link.sock.state.isWaiting = true) :
    s.claim = (.go, s.inCycle) := by
  rw [claim, Link.onSock, Sock.beginCycle_of_isWaiting h]
  rfl

theorem release_of_processing (h : s.conn.link.sock.state = .processing) :
    s.release = (true, s.onLink fun l =>
      { l with sock := { l.sock.touch l.now with state := .idle } }) := by
  rw [Service.release, Link.onSock, Sock.endCycle_of_processing _ h]
  rfl

/-- A claimed connection can be released. -/
theorem Live.release (h : s.Live limits last true busy bs) :
    ∃ s', s.release = (true, s') ∧ s'.Live limits last false busy bs ∧
      s'.record = s.record := by
  have hstate : s.conn.link.sock.state = .processing := by
    have hw := h.isWaiting
    have hc := h.ne_closed
    cases hs : s.conn.link.sock.state <;> simp_all [SockState.isWaiting]
  exact ⟨_, release_of_processing hstate, h.withSock SockState.noConfusion rfl, rfl⟩

/-- Closing closes the sock, and writes and calls nothing. -/
theorem close_eq (s : Service) :
    ∃ s', s.close = (true, s') ∧ s'.conn.link.sock.state = .closed ∧ s'.record = s.record := by
  refine ⟨_, rfl, ?_, rfl⟩
  show (s.conn.link.sock.close).2.state = .closed
  rw [Sock.close_eq]

/-- Without bytes to come the connection is closed. -/
theorem prepare_of_nil (h : s.Live limits last false busy []) :
    ∃ s', s.prepare = (.stop, s') ∧ s'.record = s.record := by
  obtain ⟨rest, hrest, hdel⟩ := h.awaits.delivers
  obtain ⟨hbuf, rfl⟩ := List.append_eq_nil_iff.1 hrest.symm
  have hlast := h.last_le
  obtain ⟨link, hreceive, hsame⟩ :=
    Link.receive_of_delivers_nil h.not_interrupted hdel (by omega)
  have hfill : s.conn.fill (fun l => l.sock.isClosed || l.shutdown) =
      (.filled 0, { s.conn with link }) := by
    rw [Conn.fill, hreceive]
  refine ⟨{ s with conn := { s.conn with link } }, ?_, record_of_sameServer hsame⟩
  unfold prepare
  simp only [Reader.hasBuffered, hbuf, hfill]
  rfl

/-- A waiting connection that awaits bytes is claimed as soon as some are there. -/
theorem prepare_of_awaits (h : s.conn.Awaits limits last bs) (hb : bs ≠ [])
    (hw : s.conn.link.sock.state.isWaiting = true) (hrun : s.conn.link.shutdown = false)
    (hlast : last ≤ s.conn.link.horizon) :
    ∃ conn : Conn, s.prepare = (.go, ({ s with conn } : Service).inCycle) ∧
      conn.Awaits limits last bs ∧ s.conn.link.SameServer conn.link ∧
      conn.link.now ≤ max s.conn.link.now last := by
  by_cases hbuf : s.conn.reader.buffer = []
  · obtain ⟨hs, hlim, rest, hrest, hdel⟩ := h
    rw [hbuf, List.nil_append] at hrest
    subst hrest
    have hi : ∀ l', s.conn.link.SameServer l' → (l'.sock.isClosed || l'.shutdown) = false := by
      intro l' hsame
      rw [hsame.sock, hsame.shutdown, hrun, Sock.isClosed_of_isWaiting hw]
      rfl
    have hnone : ∀ d, (none : Option Nat) = some d →
        (s.conn.link.receive none fun l => l.sock.isClosed || l.shutdown).1 ≠ .timeout := by
      intro d hd
      contradiction
    obtain ⟨p, link, rest', hreceive, hp, hsplit, hdel', hsame, hnow⟩ :=
      Link.receive_of_delivers hi hdel hb hlast hnone
    let conn : Conn := { s.conn with reader := s.conn.reader.feed p, link }
    have hfill : s.conn.fill (fun l => l.sock.isClosed || l.shutdown) =
        (.filled p.length, conn) := by
      rw [Conn.fill, hreceive]
    have hbuf' : conn.reader.buffer = p := by
      show s.conn.reader.buffer ++ p = p
      rw [hbuf, List.nil_append]
    obtain ⟨n, hlength⟩ : ∃ n, p.length = n + 1 :=
      Nat.exists_eq_succ_of_ne_zero fun h0 => hp (List.length_eq_zero_iff.1 h0)
    have hwaits : conn.link.sock.state.isWaiting = true := by
      rw [hsame.sock]
      exact hw
    refine ⟨conn, ?_, ⟨hs.feed p, hlim, rest', ?_, hdel'⟩, hsame, hnow⟩
    · unfold prepare
      simp only [Reader.hasBuffered, hbuf, hfill, hlength]
      exact claim_of_isWaiting (s := { s with conn }) hwaits
    · rw [hbuf', hsplit]
  · have hhas : s.conn.reader.hasBuffered = true := by simp [Reader.hasBuffered, hbuf]
    refine ⟨s.conn, ?_, h, .refl _, Nat.le_max_left _ _⟩
    unfold prepare
    rw [if_pos hhas]
    exact claim_of_isWaiting hw

/-- With bytes to come the connection is claimed as soon as some are there. -/
theorem prepare_of_ne_nil (h : s.Live limits last false busy bs) (hb : bs ≠ []) :
    ∃ s', s.prepare = (.go, s') ∧ s'.Live limits last true busy bs ∧ s'.record = s.record := by
  have hlast := h.last_le
  obtain ⟨conn, hprepare, hawaits, hsame, hnow⟩ :=
    prepare_of_awaits h.awaits hb h.isWaiting h.running (by omega)
  refine ⟨_, hprepare, ?_, record_of_sameServer hsame⟩
  exact (h.congr hsame hawaits hnow).withSock SockState.noConfusion rfl

/-! ## One request -/

/-- Since `s` the connection has answered these requests, and has neither written nor
called anything else. -/
structure Answers (routes : Routes) (qs : List Request) (s s' : Service) : Prop where
  output : s'.conn.link.sink.output =
    s.conn.link.sink.output ++ qs.flatMap fun q => (writer routes q).output
  events : s'.conn.link.events = s.conn.link.events ++ (qs.flatMap (visits routes)).map .visited

theorem answers_nil {routes : Routes} {s s' : Service} (h : s'.record = s.record) :
    Answers routes [] s s' where
  output := by
    rw [List.flatMap_nil, List.append_nil]
    exact congrArg Prod.fst h
  events := by
    rw [List.flatMap_nil, List.map_nil, List.append_nil]
    exact congrArg Prod.snd h

theorem Answers.trans {routes : Routes} {qs qs' : List Request} {s s' s'' : Service}
    (h : Answers routes qs s s') (h' : Answers routes qs' s' s'') :
    Answers routes (qs ++ qs') s s'' where
  output := by rw [h'.output, h.output, List.flatMap_append, List.append_assoc]
  events := by rw [h'.events, h.events, List.flatMap_append, List.map_append, List.append_assoc]

/-- A cycle answers the request in front, and leaves what is behind it. -/
theorem runCycle_of_live (hb : IsBuffered cfg.routes)
    (h : s.Live limits last true (delay cfg.routes q + busy) (w ++ after))
    (hw : parse w limits = .ok (q, w.length)) (hr : isRoomy limits w = true)
    (htime : (s.conn.readRequest isOver).1 ≠ .failed .timeout) :
    ∃ s', runCycle cfg s = (.ran (if keepsAlive cfg.routes q then .keepAlive else .close), s') ∧
      s'.Live limits last true busy after ∧ Answers cfg.routes [q] s s' := by
  have hlast := h.last_le
  obtain ⟨conn, hread, hawaits, hsame, hnow⟩ := Conn.readRequest_of_awaits h.awaits hw hr
    h.not_over (by omega) htime
  have hlive := h.congr hsame hawaits hnow
  obtain ⟨hs, hlim, rest, hrest, hdel⟩ := hawaits
  have hclock : conn.link.now + (delay cfg.routes q + busy) ≤ conn.link.horizon := hlive.now_le
  obtain ⟨link, hanswer, hdel', hnow', hhorizon, hshutdown, hsock, hopen, hout, hevents⟩ :=
    answer_of_delivers (q := q) (l := conn.link) hb hlive.isOpen
      (hlive.not_over _ (.refl _)) hdel (by omega)
  have hrun : Cycle.run cfg.routes s.conn =
      (if keepsAlive cfg.routes q then .keepAlive else .close, { conn with link }) := by
    rw [Cycle.run, hread]
    dsimp only
    rw [hanswer]
  refine ⟨{ s with conn := { conn with link } }, ?_, ?_, ?_⟩
  · rw [runCycle, h.pool]
    dsimp only
    rw [hrun]
  · have hlast' : last + (delay cfg.routes q + busy) ≤ conn.link.horizon := hlive.last_le
    refine ⟨h.pool, ⟨hs, hlim, rest, hrest, hdel'⟩, ?_, ?_, ?_, hopen, ?_, ?_⟩
    · rw [hsock]
      exact hlive.ne_closed
    · rw [hsock]
      exact hlive.isWaiting
    · exact hshutdown.trans hlive.running
    · show link.now + busy ≤ link.horizon
      omega
    · show last + busy ≤ link.horizon
      omega
  · refine ⟨?_, ?_⟩
    · show link.sink.output = _
      rw [hout, hsame.sink, List.flatMap_singleton]
    · show link.events = _
      rw [hevents, hsame.events_eq, List.flatMap_singleton]

/-! ## All requests -/

/-- The requests that are answered: those up to the first response after which the
connection does not stay open. -/
def answered (routes : Routes) : List Request → List Request
  | [] => []
  | q :: qs => q :: if keepsAlive routes q then answered routes qs else []

/-- Whether a request takes the client so long that its read times out, when the
connection is served for at most `n` cycles. -/
def timesOutWithin (cfg : ServeConfig) : Nat → Service → Bool
  | 0, _ => false
  | n + 1, s =>
      match s.prepare with
      | (.go, s) =>
          decide ((s.conn.readRequest isOver).1 = .failed .timeout) ||
            match runCycle cfg s with
            | (.ran .keepAlive, s) =>
                match s.release with
                | (true, s) => timesOutWithin cfg n s
                | (false, _) => false
            | _ => false
      | _ => false

/-- Whether a read times out while the connection is served. -/
def timesOut (cfg : ServeConfig) (s : Service) : Bool :=
  timesOutWithin cfg (s.conn.reader.buffer.length + s.conn.link.supply + 2) s

/-- Requests that are still to come are answered in order. -/
theorem serveWithin_of_live (hb : IsBuffered cfg.routes) {reqs : List (Bytes × Request)}
    {n : Nat} (hn : reqs.length < n) (htime : timesOutWithin cfg n s = false)
    (hreqs : ∀ p ∈ reqs, parse p.1 limits = .ok (p.2, p.1.length) ∧ isRoomy limits p.1 = true)
    (h : s.Live limits last false (totalDelay cfg.routes (reqs.map Prod.snd))
      (reqs.map Prod.fst).flatten) :
    ∃ s', serveWithin cfg n s = (true, s') ∧ s'.conn.link.sock.state = .closed ∧
      Answers cfg.routes (answered cfg.routes (reqs.map Prod.snd)) s s' := by
  induction reqs generalizing s n with
  | nil =>
      obtain ⟨m, rfl⟩ : ∃ m, n = m + 1 := ⟨n - 1, by omega⟩
      obtain ⟨s₁, hprepare, hrec₁⟩ := prepare_of_nil h
      obtain ⟨s₂, hclose, hclosed, hrec₂⟩ := close_eq s₁
      refine ⟨s₂, ?_, hclosed, answers_nil (hrec₂.trans hrec₁)⟩
      rw [serveWithin, hprepare]
      exact hclose
  | cons p reqs ih =>
      obtain ⟨w, q⟩ := p
      obtain ⟨m, rfl⟩ : ∃ m, n = m + 1 := ⟨n - 1, by omega⟩
      rw [List.length_cons] at hn
      obtain ⟨hw, hr⟩ := hreqs (w, q) List.mem_cons_self
      have hne : w ++ (reqs.map Prod.fst).flatten ≠ [] := by
        intro he
        have hpos := (le_of_parse hw).1
        have hnil : w = [] := (List.append_eq_nil_iff.1 he).1
        rw [hnil, List.length_nil] at hpos
        omega
      obtain ⟨s₁, hprepare, hlive₁, hrec₁⟩ := prepare_of_ne_nil h hne
      rw [timesOutWithin, hprepare] at htime
      dsimp only at htime
      rw [Bool.or_eq_false_iff, decide_eq_false_iff_not] at htime
      obtain ⟨hread, hlater⟩ := htime
      obtain ⟨s₂, hcycle, hlive₂, hans₂⟩ := runCycle_of_live hb hlive₁ hw hr hread
      have hans : Answers cfg.routes [q] s s₂ := (answers_nil hrec₁).trans hans₂
      rw [serveWithin, hprepare]
      dsimp only
      rw [hcycle, List.map_cons, answered]
      by_cases hkeep : keepsAlive cfg.routes q = true
      · obtain ⟨s₃, hrelease, hlive₃, hrec₃⟩ := hlive₂.release
        simp only [hcycle, hkeep, hrelease, if_true] at hlater
        obtain ⟨s₄, hserve, hclosed, hans₄⟩ := ih (by omega) hlater
          (fun p hp => hreqs p (List.mem_cons_of_mem _ hp)) hlive₃
        refine ⟨s₄, ?_, hclosed, ?_⟩
        · simp only [hkeep, hrelease, hlive₃.running, if_true]
          exact hserve
        · rw [if_pos hkeep]
          exact hans.trans ((answers_nil hrec₃).trans hans₄)
      · obtain ⟨s₃, hclose, hclosed, hrec₃⟩ := close_eq s₂
        refine ⟨s₃, ?_, hclosed, ?_⟩
        · rw [if_neg hkeep]
          exact hclose
        · rw [if_neg hkeep]
          exact hans.trans (answers_nil hrec₃)

/-! ## A whole connection -/

/-- A new connection without a pool, whose client sends these byte strings in pieces
and leaves at `last` at the latest. It takes everything that is written, and nobody
else interferes. There is time for answers that take `busy` milliseconds. -/
structure Receives (limits : Limits) (ws : List Bytes) (last busy : Nat) (s : Service) : Prop where
  pool : s.pool = none
  reader : s.conn.reader = { limits }
  sock : s.conn.link.sock.state = .fresh
  running : s.conn.link.shutdown = false
  isOpen : s.conn.link.sink.IsOpen
  inbox : s.conn.link.inbox = []
  tail : s.conn.link.tail = .quiet
  sends : Link.Sends last s.conn.link.now s.conn.link.timeline ws.flatten
  horizon : last + busy ≤ s.conn.link.horizon

theorem Receives.delivers {ws : List Bytes} (h : s.Receives limits ws last busy) :
    s.conn.link.Delivers last ws.flatten := by
  have hdel := Link.Delivers.sending h.tail h.sends
  rwa [h.inbox, List.nil_append] at hdel

theorem Receives.live {ws : List Bytes} (h : s.Receives limits ws last busy) :
    s.Live limits last false busy ws.flatten where
  pool := h.pool
  awaits := by
    refine ⟨?_, ?_, ws.flatten, ?_, h.delivers⟩
    · rw [h.reader]
      exact Reader.sound_fresh limits
    · rw [h.reader]
    · rw [h.reader, List.nil_append]
  ne_closed := by simp [h.sock]
  isWaiting := by rw [h.sock]; rfl
  running := h.running
  isOpen := h.isOpen
  now_le := by
    have hle := h.sends.now_le
    have hhor := h.horizon
    omega
  last_le := h.horizon

/-- Each request takes a byte at least. -/
theorem length_le_of_parse {reqs : List (Bytes × Request)}
    (h : ∀ p ∈ reqs, parse p.1 limits = .ok (p.2, p.1.length)) :
    reqs.length ≤ (reqs.map Prod.fst).flatten.length := by
  induction reqs with
  | nil => exact Nat.zero_le _
  | cons p reqs ih =>
      have hpos := (le_of_parse (h p List.mem_cons_self)).1
      have hle := ih fun p' hp => h p' (List.mem_cons_of_mem _ hp)
      rw [List.map_cons, List.flatten_cons, List.length_append, List.length_cons]
      omega

/-- **Requests are answered in order.** On buffered routes a connection that is sent
whole requests, in whatever pieces, comes to an end, unless a read times out. It
writes the responses to the requests, one behind the other, up to the first after
which the connection does not stay open, and not a byte more; no other request
reaches a handler, and none reaches two. In the end the sock is closed, and is no
longer in its set. -/
theorem serve_of_pipelined (cfg : ServeConfig) (reqs : List (Bytes × Request))
    (hb : IsBuffered cfg.routes)
    (hreqs : ∀ p ∈ reqs, parse p.1 limits = .ok (p.2, p.1.length) ∧ isRoomy limits p.1 = true)
    (hs : s.Receives limits (reqs.map Prod.fst) last
      (totalDelay cfg.routes (reqs.map Prod.snd)))
    (htime : timesOut cfg s = false) :
    ∃ s', serve cfg s = (true, s') ∧
      s'.conn.link.sink.output = s.conn.link.sink.output ++
        (answered cfg.routes (reqs.map Prod.snd)).flatMap (fun q => (writer cfg.routes q).output) ∧
      s'.conn.link.events = s.conn.link.events ++
        ((answered cfg.routes (reqs.map Prod.snd)).flatMap (visits cfg.routes)).map .visited ∧
      (∀ q, (visits cfg.routes q).countP Visit.isHandler ≤ 1) ∧
      s'.conn.link.sock.state = .closed ∧
      ∀ (table : SockTable) (i home : Nat),
        i ∉ (table.put i home s'.conn.link.sock).members home := by
  have hlength : reqs.length ≤ (reqs.map Prod.fst).flatten.length :=
    length_le_of_parse fun p hp => (hreqs p hp).1
  have hfuel : reqs.length < s.conn.reader.buffer.length + s.conn.link.supply + 2 := by
    rw [hs.delivers.supply_eq]
    omega
  obtain ⟨s', hserve, hclosed, hans⟩ :=
    serveWithin_of_live hb hfuel htime hreqs hs.live
  refine ⟨s', hserve, hans.output, hans.events, countP_visits cfg.routes, hclosed, ?_⟩
  intro table i home
  exact SockTable.not_mem_members_put table i home (by simp [Sock.isClosed, hclosed])

/-- Routes to a handler that takes its time and gives the body back. -/
def echoRoutes : Routes where
  contextPath := ""
  exact := [("/a", .http
    { name := "echo", delay := 5, handle := fun q => (q, .response (.ok q.body)) })]
  directories := []
  extensions := []
  fallback := none
  interceptors := []

theorem isBuffered_echoRoutes : IsBuffered echoRoutes := by
  refine isBuffered_of_handlers (fun path p e he => ?_) (fun p i hi => by simp [echoRoutes] at hi)
  simp only [Route.Router.endpoint?, echoRoutes] at he
  cases hpath : ("/a" == path) with
  | false => simp [hpath] at he
  | true =>
      simp only [List.find?_cons, hpath, Option.some.injEq, Prod.mk.injEq] at he
      exact ⟨_, he.2.symm, fun q pieces hbody => by contradiction⟩

/-- Three requests in three pieces that are cut inside of requests. The second asks
for the end of the connection, so the third is not answered. -/
theorem serve_of_pipelined_three :
    let reqs : List (Bytes × Request) :=
      [(utf8 "POST /a HTTP/1.1\r\nTransfer-Encoding: chunked\r\n\r\n2\r\nhi\r\n0\r\n\r\n",
          { method := .post, path := "/a", body := utf8 "hi"
            headers := ⟨[("Transfer-Encoding", "chunked")]⟩ }),
        (utf8 "GET /b HTTP/1.1\r\nConnection: close\r\n\r\n",
          { method := .get, path := "/b", headers := ⟨[("Connection", "close")]⟩ }),
        (utf8 "GET /a HTTP/1.1\r\n\r\n", { method := .get, path := "/a" })]
    let stream := (reqs.map Prod.fst).flatten
    let s : Service :=
      { pool := none
        conn :=
          { reader := { limits := {} }
            patience := 25
            link :=
              { timeline :=
                  [(1, .bytes (stream.take 50)), (20, .bytes ((stream.drop 50).take 60)),
                    (40, .bytes (stream.drop 110)), (90, .eof)] } } }
    IsBuffered echoRoutes ∧
      (∀ p ∈ reqs, parse p.1 {} = .ok (p.2, p.1.length) ∧ isRoomy {} p.1 = true) ∧
      s.Receives {} (reqs.map Prod.fst) 90 10 ∧
      timesOut { routes := echoRoutes, messageLimit := 100 } s = false ∧
      ∃ s', serve { routes := echoRoutes, messageLimit := 100 } s = (true, s') ∧
        s'.conn.link.sink.output = utf8 ("HTTP/1.1 200 OK\r\nContent-Length: 2\r\n\r\nhi" ++
          "HTTP/1.1 404 Not Found\r\nContent-Type: text/plain\r\nContent-Length: 13\r\n" ++
          "Connection: close\r\n\r\n404 Not Found") ∧
        s'.conn.link.events = [.visited (.handler "echo" .post "/a")] ∧
        s'.conn.link.sock.state = .closed := by
  intro reqs stream s
  have hreqs : ∀ p ∈ reqs, parse p.1 {} = .ok (p.2, p.1.length) ∧ isRoomy {} p.1 = true := by
    decide +kernel
  have hreceives : s.Receives {} (reqs.map Prod.fst) 90 10 := by
    refine ⟨rfl, rfl, rfl, rfl, ⟨by decide, rfl, rfl⟩, rfl, rfl, ?_, by decide⟩
    have hsplit : (reqs.map Prod.fst).flatten =
        stream.take 50 ++ ((stream.drop 50).take 60 ++ (stream.drop 110 ++ [])) := by
      decide +kernel
    rw [hsplit]
    exact .piece (by decide) (by decide) (by decide +kernel)
      (.piece (by decide) (by decide) (by decide +kernel)
        (.piece (by decide) (by decide) (by decide +kernel)
          (.leaves (by decide) (by decide))))
  have htime : timesOut { routes := echoRoutes, messageLimit := 100 } s = false := by
    decide +kernel
  obtain ⟨s', hserve, hout, hevents, _, hclosed, _⟩ :=
    serve_of_pipelined { routes := echoRoutes, messageLimit := 100 } reqs
      isBuffered_echoRoutes hreqs hreceives htime
  refine ⟨isBuffered_echoRoutes, hreqs, hreceives, htime, s', hserve, ?_, ?_, hclosed⟩
  · rw [hout]
    decide +kernel
  · rw [hevents]
    decide +kernel

end Service

end WebServer
