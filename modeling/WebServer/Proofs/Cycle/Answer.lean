import WebServer.Cycle
import WebServer.Proofs.Chain.Run
import WebServer.Proofs.Link.Delivery
import WebServer.Proofs.Request.Reader
import WebServer.Proofs.Request.Rejection

/-!
# WebServer.Proofs.Cycle.Answer

One cycle with a client that sends whole requests. Whatever pieces the bytes come
in, the cycle reads the first request and no byte more (`readRequest_of_delivers`),
and writes the response that the request is routed to (`answer_of_delivers`).
-/

namespace WebServer

open Request

/-! ## What a request is owed -/

namespace Cycle

/-- Routes to handlers of requests only, whose responses are all there. -/
def IsBuffered (routes : Routes) : Prop :=
  ∀ q r, routes.resolve q.path = some r →
    (∃ h, r.endpoint = .http h) ∧ (r.execute q).outcome.toResponse.IsWhole

/-- The response that a request is routed to. -/
def response (routes : Routes) (q : Request) : Response :=
  match routes.resolve q.path with
  | none => .notFound
  | some r => (r.execute q).outcome.toResponse

/-- The calls on the way to the response. -/
def visits (routes : Routes) (q : Request) : List Visit :=
  match routes.resolve q.path with
  | none => []
  | some r => (r.execute q).visits

/-- How long the response takes. -/
def delay (routes : Routes) (q : Request) : Nat :=
  match routes.resolve q.path with
  | none => 0
  | some r => (r.execute q).delay

/-- How long the responses to requests take, one after the other. -/
def totalDelay (routes : Routes) (qs : List Request) : Nat :=
  qs.foldr (fun q n => delay routes q + n) 0

/-- The response made ready for the wire, as the request allows. A response that
announces the end of the connection ends it. -/
def writer (routes : Routes) (q : Request) : Response.Writer :=
  let r := response routes q
  let ex := Exchange.ofRequest q
  .ofResponse r
    (if r.headers.hasToken "Connection" "close" then { ex with keepAlive := false } else ex)

/-- Whether another request may follow. -/
def keepsAlive (routes : Routes) (q : Request) : Bool :=
  (writer routes q).keepAlive && (writer routes q).isComplete

variable {routes : Routes} {q : Request} {last : Nat} {l : Link} {bs : Bytes}

/-- Handlers that answer with responses that are all there, behind interceptors that
leave them so. -/
theorem isBuffered_of_handlers
    (he : ∀ path p e, routes.endpoint? path = some (p, e) →
      ∃ h, e = .http h ∧ ∀ q, (h.handle q).2.toResponse.IsWhole)
    (hi : ∀ p i, (p, i) ∈ routes.interceptors → i.KeepsWhole) : IsBuffered routes := by
  intro q r hr
  obtain ⟨path, p, hend, his⟩ : ∃ path p, routes.endpoint? path = some (p, r.endpoint) ∧
      r.interceptors = routes.interceptorsFor path := by
    simp only [Route.Router.resolve, Option.bind_eq_bind, Option.bind_eq_some_iff] at hr
    obtain ⟨path, _, ⟨p, e⟩, hend, hr⟩ := hr
    obtain rfl := Option.some.inj hr
    exact ⟨path, p, hend, rfl⟩
  obtain ⟨h, heq, hwhole⟩ := he path p _ hend
  refine ⟨⟨h, heq⟩, ?_⟩
  rw [Route.Resolved.execute, heq, his]
  refine Chain.isWhole_run hwhole (fun i hmem => ?_) q
  obtain ⟨⟨p', i'⟩, hfilter, rfl⟩ := List.mem_map.1 hmem
  exact hi p' i' (List.mem_filter.1 hfilter).1

/-- A request reaches one handler at most. -/
theorem countP_visits (routes : Routes) (q : Request) :
    (visits routes q).countP Visit.isHandler ≤ 1 := by
  unfold visits
  split
  · simp
  · next r _ =>
      unfold Route.Resolved.execute
      split
      · exact Chain.countP_visits_run _ _ _
      · simp

theorem isWhole_response (h : IsBuffered routes) (q : Request) : (response routes q).IsWhole := by
  unfold response
  cases hr : routes.resolve q.path with
  | none =>
      intro pieces hp
      contradiction
  | some r => exact (h q r hr).2

/-! ## Answering -/

/-- Responding writes the response, and nothing else happens. -/
theorem respond_of_isOpen (hb : IsBuffered routes) (hs : l.sink.IsOpen) :
    ∃ sink, respond l (response routes q) (Exchange.ofRequest q) =
        (if keepsAlive routes q then .keepAlive else .close, { l with sink }) ∧
      sink.IsOpen ∧ sink.output = l.sink.output ++ (writer routes q).output := by
  have hwaits : (writer routes q).plan.waits = false :=
    Response.Writer.waits_ofResponse (isWhole_response hb q)
  obtain ⟨sink, hw, hopen, hout⟩ := Conn.writeResponse_of_isOpen isOver hs hwaits
  refine ⟨sink, ?_, hopen, hout⟩
  unfold respond
  dsimp only
  rw [← writer, hw]
  unfold Conn.completeEnd keepsAlive Response.Writer.isComplete
  cases (writer routes q).plan.ending <;> simp

theorem logVisits_eq (l : Link) (vs : List Visit) :
    l.logVisits vs = { l with trace := (vs.map .visited).reverse ++ l.trace } := by
  unfold Link.logVisits
  induction vs generalizing l with
  | nil => rfl
  | cons v vs ih =>
      rw [List.foldl_cons, ih]
      simp [Link.log]

/-- A request on a buffered route is a run of a chain; without a route the run is
empty. -/
theorem answer_eq (hb : IsBuffered routes) :
    answer routes l q =
      if delay routes q = 0 then
        respond (l.logVisits (visits routes q)) (response routes q) (Exchange.ofRequest q)
      else
        match (l.logVisits (visits routes q)).await
            (fun l => if isOver l then some () else none)
            (some ((l.logVisits (visits routes q)).now + delay routes q)) with
        | (.ready (), l) => (.close, l)
        | (.timeout, l) => respond l (response routes q) (Exchange.ofRequest q)
        | (.stuck, l) => (.stuck, l) := by
  unfold answer plan delay visits response
  cases hr : routes.resolve q.path with
  | none => rfl
  | some r =>
      obtain ⟨⟨h, hh⟩, _⟩ := hb q r hr
      simp only [hh]
      rfl

/-- Answering a request writes its response after the time that this takes, and
records the calls. -/
theorem answer_of_delivers (hb : IsBuffered routes) (hs : l.sink.IsOpen)
    (ho : isOver l = false) (hd : l.Delivers last bs)
    (htime : l.now + delay routes q ≤ l.horizon) :
    ∃ l', answer routes l q = (if keepsAlive routes q then .keepAlive else .close, l') ∧
      l'.Delivers last bs ∧ l'.now = l.now + delay routes q ∧
      l'.horizon = l.horizon ∧ l'.shutdown = l.shutdown ∧ l'.sock = l.sock ∧
      l'.sink.IsOpen ∧ l'.sink.output = l.sink.output ++ (writer routes q).output ∧
      l'.events = l.events ++ (visits routes q).map .visited := by
  have hlog := logVisits_eq l (visits routes q)
  rw [answer_eq hb, hlog]
  have hevents : ∀ vs : List Event, (vs.reverse ++ l.trace).reverse = l.events ++ vs := by
    intro vs
    rw [List.reverse_append, List.reverse_reverse, Link.events]
  by_cases hz : delay routes q = 0
  · rw [if_pos hz, hz]
    obtain ⟨sink, hrespond, hopen, hout⟩ := respond_of_isOpen (q := q)
      (l := { l with trace := ((visits routes q).map .visited).reverse ++ l.trace }) hb hs
    exact ⟨_, hrespond, hd.congr rfl rfl rfl rfl, rfl, rfl, rfl, rfl, hopen, hout, hevents _⟩
  · rw [if_neg hz]
    obtain ⟨l₁, hawait, hsame, hdel, hnow⟩ := Link.await_of_delivers
      (fun l => if isOver l then some () else none)
      (l := { l with trace := ((visits routes q).map .visited).reverse ++ l.trace })
      (fun l' h => by
        have hover : isOver l' = false := by rw [isOver, h.sock]; exact ho
        simp [hover])
      (hd.congr rfl rfl rfl rfl) (Nat.le_add_right _ _) htime
    rw [hawait]
    obtain ⟨sink, hrespond, hopen, hout⟩ := respond_of_isOpen (q := q) (l := l₁) hb
      (by rw [hsame.sink]; exact hs)
    refine ⟨_, hrespond, hdel.congr rfl rfl rfl rfl, hnow, hsame.horizon, hsame.shutdown,
      hsame.sock, hopen, ?_, ?_⟩
    · rw [hout, hsame.sink]
    · rw [Link.events, hsame.trace, hevents]

end Cycle

/-! ## Reading -/

namespace Conn

variable {limits : Limits} {last : Nat}

/-- The connection holds or is still to receive exactly these bytes. -/
structure Awaits (limits : Limits) (last : Nat) (c : Conn) (bs : Bytes) : Prop where
  sound : c.reader.Sound
  limits_eq : c.reader.limits = limits
  delivers : ∃ rest, bs = c.reader.buffer ++ rest ∧ c.link.Delivers last rest

variable {c : Conn} {interrupt : Link → Bool} {w after : Bytes} {q : Request}

/-- A request that is all there is taken from the buffer. -/
theorem readRequest_of_buffered (h : c.Awaits limits last (w ++ after))
    (hw : parse w limits = .ok (q, w.length)) (hle : w.length ≤ c.reader.buffer.length) :
    ∃ c', c.readRequest interrupt = (.request q, c') ∧ c'.Awaits limits last after ∧
      c.link.SameServer c'.link ∧ c'.link.now = c.link.now := by
  obtain ⟨hs, rfl, rest, hrest, hdel⟩ := h
  obtain ⟨extra, hbuf⟩ : ∃ extra, c.reader.buffer = w ++ extra := by
    have hpre : w <+: c.reader.buffer :=
      List.prefix_of_prefix_length_le ⟨after, hrest⟩ (List.prefix_append _ _) hle
    obtain ⟨extra, he⟩ := hpre
    exact ⟨extra, he.symm⟩
  have hp : parse c.reader.buffer c.reader.limits = .ok (q, w.length) := by
    rw [hbuf]
    exact parse_append_of_ok hw extra
  refine ⟨_, readRequest_of_request (Reader.next_of_parse_ok hs hp), ⟨?_, rfl, rest, ?_, hdel⟩,
    .refl _, rfl⟩
  · exact Reader.sound_restart _ _
  · show after = c.reader.buffer.drop w.length ++ rest
    rw [hbuf, List.append_assoc] at hrest
    rw [hbuf, List.drop_left]
    exact List.append_cancel_left hrest

theorem readRequest_of_timeout {reader : Reader} {link : Link}
    (hn : c.reader.next = (.ok none, reader))
    (hr : c.link.receive (some (c.link.now + c.patience)) interrupt = (.timeout, link)) :
    c.readRequest interrupt = (.failed .timeout, { c with reader, link }) := by
  rw [readRequest, hn]
  dsimp only
  split <;> simp_all

/-- Of a request that is not all there more bytes are read. -/
theorem readRequest_of_missing {bs : Bytes} (h : c.Awaits limits last bs)
    (hinc : parse c.reader.buffer limits = .error .incomplete)
    (hi : ∀ l', c.link.SameServer l' → interrupt l' = false) (hlast : last ≤ c.link.horizon)
    (htime : (c.readRequest interrupt).1 ≠ .failed .timeout)
    (hlt : c.reader.buffer.length < bs.length) :
    ∃ c₁ : Conn, c.readRequest interrupt = c₁.readRequest interrupt ∧
      c₁.Awaits limits last bs ∧ c.link.SameServer c₁.link ∧
      c.reader.buffer.length < c₁.reader.buffer.length ∧ c₁.link.now ≤ max c.link.now last := by
  obtain ⟨hs, rfl, rest, hrest, hdel⟩ := h
  obtain ⟨reader, hnext, hbuf, hlim, hsound⟩ := Reader.next_of_parse_incomplete hs hinc
  have hne : rest ≠ [] := by
    rintro rfl
    have hlength := congrArg List.length hrest
    simp only [List.length_append, List.length_nil] at hlength
    omega
  have hreceived : ∀ d, some (c.link.now + c.patience) = some d →
      (c.link.receive (some (c.link.now + c.patience)) interrupt).1 ≠ .timeout := by
    intro d _ hr
    exact htime (by rw [readRequest_of_timeout hnext (Prod.ext hr rfl)])
  obtain ⟨p, link, rest', hreceive, hp, hsplit, hdel', hsame, hnow⟩ :=
    Link.receive_of_delivers hi hdel hne hlast hreceived
  refine ⟨_, readRequest_of_bytes hnext hreceive, ⟨hsound.feed p, hlim, rest', ?_, hdel'⟩,
    hsame, ?_, hnow⟩
  · show bs = (reader.buffer ++ p) ++ rest'
    rw [hrest, hsplit, hbuf, List.append_assoc]
  · show c.reader.buffer.length < (reader.buffer ++ p).length
    have hplen := List.length_pos_iff.2 hp
    rw [hbuf, List.length_append]
    omega

theorem readRequest_of_error {e : ParseError} {reader : Reader}
    (hn : c.reader.next = (.error e, reader)) :
    c.readRequest interrupt = (.failed (.parse e), { c with reader }) := by
  rw [readRequest, hn]

/-- What has been read of a whole request is the beginning of it. -/
theorem Awaits.prefix_of_lt (h : c.Awaits limits last (w ++ after))
    (hlt : c.reader.buffer.length < w.length) :
    ∃ more, w = c.reader.buffer ++ more ∧ c.link.Delivers last (more ++ after) := by
  obtain ⟨rest, hrest, hdel⟩ := h.delivers
  obtain ⟨more, hmore⟩ : c.reader.buffer <+: w :=
    List.prefix_of_prefix_length_le ⟨rest, hrest.symm⟩ (List.prefix_append _ _) (by omega)
  refine ⟨more, hmore.symm, ?_⟩
  rw [← hmore, List.append_assoc] at hrest
  rw [List.append_cancel_left hrest]
  exact hdel

/-- A request is refused before it is all there only with a line end cut at its limit. -/
theorem readRequest_of_cut {e : ParseError} (h : c.Awaits limits last (w ++ after))
    (hw : parse w limits = .ok (q, w.length)) (hlt : c.reader.buffer.length < w.length)
    (hp : parse c.reader.buffer limits = .error e) (he : e ≠ .incomplete) :
    ∃ k c', k < w.length ∧ CutAtLimit limits (w.take k) ∧
      c.readRequest interrupt = (.failed (.parse e), c') ∧ c.link.SameServer c'.link ∧
      c'.link.Delivers last (w.drop k ++ after) := by
  obtain ⟨more, hmore, hdel⟩ := h.prefix_of_lt hlt
  have htake : w.take c.reader.buffer.length = c.reader.buffer := by rw [hmore, List.take_left]
  have hdrop : w.drop c.reader.buffer.length = more := by rw [hmore, List.drop_left]
  have herror := Reader.next_of_parse_error h.sound (h.limits_eq ▸ hp) he
  refine ⟨_, _, hlt, cutAtLimit_of_parse_take hw (by rw [htake]; exact hp) he,
    readRequest_of_error (Prod.ext herror rfl), ⟨rfl, rfl, rfl, rfl, rfl⟩, ?_⟩
  rw [hdrop]
  exact hdel

/-- A connection that awaits a whole request in front reads it, unless it has to wait for
too long, and then awaits what is behind it; or it refuses a beginning of the request whose
line end is cut at its limit, when it has read just that. -/
theorem readRequest_of_awaits_or_cut (h : c.Awaits limits last (w ++ after))
    (hw : parse w limits = .ok (q, w.length))
    (hi : ∀ l', c.link.SameServer l' → interrupt l' = false) (hlast : last ≤ c.link.horizon)
    (htime : (c.readRequest interrupt).1 ≠ .failed .timeout) :
    (∃ c', c.readRequest interrupt = (.request q, c') ∧ c'.Awaits limits last after ∧
      c.link.SameServer c'.link ∧ c'.link.now ≤ max c.link.now last) ∨
    ∃ e k c', k < w.length ∧ CutAtLimit limits (w.take k) ∧
      c.readRequest interrupt = (.failed (.parse e), c') ∧ c.link.SameServer c'.link ∧
      c'.link.Delivers last (w.drop k ++ after) := by
  -- by induction on what the buffer lacks
  induction hn : w.length - c.reader.buffer.length using Nat.strongRecOn generalizing c with
  | ind n ih =>
      rcases Nat.lt_or_ge c.reader.buffer.length w.length with hlt | hge
      · cases hp : parse c.reader.buffer limits with
        | ok taken =>
            obtain ⟨more, hmore, _⟩ := h.prefix_of_lt hlt
            have htake : w.take c.reader.buffer.length = c.reader.buffer := by
              rw [hmore, List.take_left]
            rw [← htake] at hp
            exact absurd hp (parse_take_ne_ok hw hlt taken.1 taken.2)
        | error e =>
            by_cases he : e = .incomplete
            · obtain ⟨c₁, hread, hawaits, hsame, hmore, hnow⟩ := readRequest_of_missing h
                (he ▸ hp) hi hlast htime (by rw [List.length_append]; omega)
              rw [hread]
              obtain ⟨c', hread', hawaits', hsame', hnow'⟩ |
                  ⟨e, k, c', hk, hcut, hread', hsame', hdel⟩ :=
                ih _ (by omega) hawaits (fun l' hl => hi l' (hsame.trans hl))
                  (by rw [hsame.horizon]; exact hlast) (by rw [← hread]; exact htime) rfl
              · exact .inl ⟨c', hread', hawaits', hsame.trans hsame', by omega⟩
              · exact .inr ⟨e, k, c', hk, hcut, hread', hsame.trans hsame', hdel⟩
            · exact .inr ⟨e, readRequest_of_cut h hw hlt hp he⟩
      · obtain ⟨c', hread, hawaits, hsame, hnow⟩ := readRequest_of_buffered h hw hge
        exact .inl ⟨c', hread, hawaits, hsame, by omega⟩

/-- No line end of a roomy request is cut at its limit. -/
theorem readRequest_of_awaits (h : c.Awaits limits last (w ++ after))
    (hw : parse w limits = .ok (q, w.length)) (hr : isRoomy limits w = true)
    (hi : ∀ l', c.link.SameServer l' → interrupt l' = false) (hlast : last ≤ c.link.horizon)
    (htime : (c.readRequest interrupt).1 ≠ .failed .timeout) :
    ∃ c', c.readRequest interrupt = (.request q, c') ∧ c'.Awaits limits last after ∧
      c.link.SameServer c'.link ∧ c'.link.now ≤ max c.link.now last := by
  obtain hread | ⟨e, k, c', _, hcut, _⟩ := readRequest_of_awaits_or_cut h hw hi hlast htime
  · exact hread
  · rw [← List.take_append_drop k w] at hw hr
    exact absurd hcut (not_cutAtLimit_of_isRoomy hw hr)

end Conn

end WebServer
