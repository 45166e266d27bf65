import WebServer.Proofs.Cycle.Persistence

/-!
# WebServer.Proofs.Cycle.HeadOnly

What a request for the head only is answered. The wish is part of what the request allows
(`Exchange.ofRequest`), and a response that is written for it has no body
(`plan_of_headOnly`). One way out of a cycle does not pass the wish on: the page of a
handshake that is refused (`plan_of_head`).

Main statement: the answer to such a request is a head and nothing behind it, except for the
page of a refused handshake (`run_head_iff`).
-/

namespace WebServer

/-! ## Responses without a body -/

namespace Response.Writer

variable {r : Response} {ex : Exchange}

/-- A client that wants the head only is written the head only. -/
theorem plan_of_headOnly (r : Response) (h : ex.headOnly = true) :
    (ofResponse r ex).plan = { writes := [(ofResponse r ex).head], ending := .sent 0 } := by
  have hframing : (ofResponse r ex).framing = .empty := by
    rw [framing_ofResponse, wireFraming, if_pos h]
  rw [Writer.plan, hframing]

/-- A whole body is written behind its head, if the status allows one and the client wants
it. -/
theorem plan_of_full {bs : Bytes} (hb : r.body = .full bs) (ha : r.status.allowsBody = true)
    (h : ex.headOnly = false) :
    (ofResponse r ex).plan =
      { writes := [(ofResponse r ex).head, bs], ending := .sent bs.length } := by
  have hframing : (ofResponse r ex).framing = .full := by
    simp [framing_ofResponse, wireFraming, bodyFraming, h, ha, hb]
  rw [Writer.plan, hframing, body_ofResponse, hb]

end Response.Writer

namespace Cycle

open Response Response.Writer WebSocket

variable {routes : Routes} {q : Request}

/-! ## What a request for the head only leads to -/

/-- A request asks for a session, and its path leads to sessions. -/
def asksForSession (routes : Routes) (q : Request) : Bool :=
  match routes.resolve q.path with
  | none => false
  | some r =>
      match r.endpoint with
      | .http _ => false
      | .socket _ => Handshake.isUpgrade q

theorem headOnly_announced (r : Response) (ex : Exchange) :
    (announced r ex).headOnly = ex.headOnly := by
  unfold announced
  split <;> rfl

/-- Only GET begins a session. -/
theorem response_of_head (hm : q.method = .head) : Handshake.response q = .error .notGet := by
  simp [Handshake.response, Handshake.validate, hm, Except.map]

/-- Every way out of a cycle passes on that only the head is wanted, but one: a handshake
is refused. -/
theorem plan_of_head (routes : Routes) (hm : q.method = .head) :
    (asksForSession routes q = false ∧ (plan routes q).exchange.headOnly = true) ∨
      (asksForSession routes q = true ∧
        plan routes q = .respond Handshake.Error.notGet.response .closing) := by
  have hwish : ∀ r, (announced r (.ofRequest q)).headOnly = true := by
    intro r
    simp [headOnly_announced, Exchange.ofRequest, hm]
  unfold plan asksForSession
  dsimp only
  cases routes.resolve q.path with
  | none => exact .inl ⟨rfl, hwish _⟩
  | some resolved =>
      dsimp only
      cases resolved.endpoint with
      | http h => exact .inl ⟨rfl, hwish _⟩
      | socket h =>
          dsimp only
          cases Handshake.isUpgrade q with
          | false => exact .inl ⟨rfl, hwish _⟩
          | true => exact .inr ⟨rfl, by rw [response_of_head hm]; rfl⟩

/-- The bytes behind the head of the answer. -/
def behindHead (routes : Routes) (q : Request) : List Bytes :=
  if asksForSession routes q then [utf8 Handshake.Error.notGet.message] else []

/-- The answer to a request for the head only is all there, and nothing of it is waited
for. -/
theorem plan_writer_of_head (routes : Routes) (hm : q.method = .head) :
    ∃ n, (plan routes q).writer.plan =
      { writes := headBytes (plan routes q).response.status (plan routes q).fields ::
          behindHead routes q
        ending := .sent n } := by
  unfold behindHead
  rcases plan_of_head routes hm with ⟨hasks, hwish⟩ | ⟨hasks, hplan⟩
  · rw [hasks]
    exact ⟨_, plan_of_headOnly _ hwish⟩
  · rw [hasks, hplan]
    exact ⟨_, plan_of_full rfl rfl (headOnly_announced _ _)⟩

/-! ## Whole cycles -/

/-- Whatever becomes of an answer, the client has taken a beginning of the response. -/
theorem takes_answer (routes : Routes) (l : Link) (q : Request) :
    Sink.Takes (plan routes q).writer.output l.sink (answer routes l q).2.sink := by
  rw [answer_eq_finish]
  obtain ⟨l₀, hprepare, hsink⟩ | ⟨e, hprepare, _, hsink⟩ := (plan routes q).prepare_cases l
  · rw [hprepare, ← hsink]
    exact Conn.takes_writeResponse l₀ _ isOver
  · rw [hprepare, ← hsink]
    exact Sink.takes_refl _ _

/-- A client that takes everything is sent an answer that is all there. -/
theorem writes_of_isOpen {l l₀ : Link} (hopen : l.sink.IsOpen)
    (hprepare : (plan routes q).prepare l = .ok l₀)
    (hwaits : (plan routes q).writer.plan.waits = false) :
    Writes routes l q (Conn.completeEnd (plan routes q).writer) := by
  obtain ⟨l₁, hl₁, hsink⟩ | ⟨e, he, _⟩ := (plan routes q).prepare_cases l
  · obtain rfl := Except.ok.inj (hprepare.symm.trans hl₁)
    obtain ⟨_, hwrite, _⟩ := Conn.writeResponse_of_isOpen isOver (hsink ▸ hopen) hwaits
    exact ⟨_, hprepare, by rw [hwrite]⟩
  · simp [hprepare] at he

/-- **A request for the head only is answered by a head and nothing behind it, unless it asks
for a session.** Whatever the client takes and whatever ends the cycle, what is written is a
beginning of the response, and all of it if the response is sent; a client that takes
everything is sent it. The response is the head alone, whichever way the cycle takes, with
one exception: the page of a refused handshake is sent with its body. -/
theorem run_head_iff (routes : Routes) {c : Conn} (hq : (c.readRequest isOver).1 = .request q)
    (hm : q.method = .head) :
    let p := plan routes q
    let l := (c.readRequest isOver).2.link
    let head := headBytes p.response.status p.fields
    Sink.Takes p.writer.output c.link.sink (run routes c).2.link.sink ∧
    (∀ n, Writes routes l q (.sent n) →
      (run routes c).2.link.sink.output = c.link.sink.output ++ p.writer.output) ∧
    (c.link.sink.IsOpen → ∀ l₀, p.prepare l = .ok l₀ → ∃ n, Writes routes l q (.sent n)) ∧
    (p.writer.output = head ↔ asksForSession routes q = false) ∧
    (asksForSession routes q = true →
      p.writer.output = head ++ utf8 "upgrade requests must use GET") := by
  intro p l head
  obtain ⟨_, hlink⟩ := run_of_request routes hq
  have hread : l.sink = c.link.sink := sink_readRequest c isOver
  obtain ⟨n, hplan⟩ := plan_writer_of_head routes hm
  have hout : p.writer.output = head ++ (behindHead routes q).flatten := by
    simp [output, hplan, p, head]
  refine ⟨?_, fun n hn => ?_, fun hopen l₀ hl₀ => ⟨n, ?_⟩, ?_, fun hasks => ?_⟩
  · rw [hlink, ← hread]
    exact takes_answer routes l q
  · obtain ⟨l₀, l₁, hsink, hwrite, hanswer⟩ := answer_of_writes hn
    rw [hlink, hanswer, ← hread, ← hsink]
    exact (Conn.output_of_writeResponse hwrite).1
  · have hend : Conn.completeEnd p.writer = .sent n := by rw [Conn.completeEnd, hplan]
    rw [← hend]
    exact writes_of_isOpen (hread ▸ hopen) hl₀ (by rw [hplan])
  · have hne : utf8 Handshake.Error.notGet.message ≠ [] := by decide +kernel
    rw [hout, behindHead]
    cases asksForSession routes q <;> simp [hne]
  · rw [hout, behindHead, if_pos hasks, List.flatten_singleton]
    rfl

/-- Routes to a handler of sessions. -/
def sessionRoutes : Routes where
  contextPath := ""
  exact := [("/ws", .socket { name := "session" })]
  directories := []
  extensions := []
  fallback := none
  interceptors := []

/-- The head of a session's opening is asked for: the page of the refusal comes with its
body. -/
theorem run_head_iff_of_session :
    let c : Conn :=
      { reader := { limits := {} }
        link := { inbox := utf8 "HEAD /ws HTTP/1.1\r\nUpgrade: websocket\r\nConnection: Upgrade\r\n\r\n" }
        patience := 25 }
    let q : Request :=
      { method := .head, path := "/ws"
        headers := ⟨[("Upgrade", "websocket"), ("Connection", "Upgrade")]⟩ }
    (c.readRequest isOver).1 = .request q ∧ q.method = .head ∧
      asksForSession sessionRoutes q = true ∧
      (run sessionRoutes c).2.link.sink.output =
        utf8 "HTTP/1.1 400 Bad Request\r\nContent-Type: text/plain\r\nContent-Length: 29\r\n" ++
          utf8 "Connection: close\r\n\r\nupgrade requests must use GET" := by
  intro c q
  have hq : (c.readRequest isOver).1 = .request q := by decide +kernel
  have hasks : asksForSession sessionRoutes q = true := by decide +kernel
  obtain ⟨_, hsent, hwrites, _, hbody⟩ := run_head_iff sessionRoutes hq rfl
  obtain ⟨n, hn⟩ := hwrites ⟨by decide, rfl, rfl⟩ _ rfl
  refine ⟨hq, rfl, hasks, ?_⟩
  rw [hsent n hn, hbody hasks]
  decide +kernel

end Cycle

end WebServer
