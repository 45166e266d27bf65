import WebServer.Proofs.Cycle.Persistence
import WebServer.Proofs.SockTable.Entry
import WebServer.Proofs.WebSocket.Lifetime
import WebServer.Serve

/-!
# WebServer.Proofs.Serve.Membership

A connection that is served, among the connections of its set. Cycles, sessions and the client do
nothing to the sock but operations, and when serving has come to its end the sock is closed
(`sock_serve`). So its entry in the table goes with it, whatever is done to other connections
meanwhile, and in the end the connection has left its set.

Main statements: `not_mem_members_of_run` for sessions and `not_mem_members_of_serve` for whole
connections.
-/

namespace WebServer

open SockTable (opsOn)

/-! ## Cycles -/

namespace Cycle

/-- Nothing happens to the sock while a request is answered but operations. -/
theorem becomes_answer (routes : Routes) (l : Link) (q : Request) :
    l.sock.Becomes (answer routes l q).2.sock := by
  rw [answer_eq_finish]
  obtain ⟨l₁, hl₁, hb⟩ | ⟨e, he, _, hb⟩ :=
    (plan routes q).prepare_keeps (motive := fun l' => l.sock.Becomes l'.sock)
      (fun _ ready d l' h => h.trans (Link.becomes_await ready d l'))
      (fun l' vs h => by rw [logVisits_eq]; exact h) l (.refl _)
  · rw [hl₁]
    exact hb.trans (Conn.becomes_writeResponse l₁ _ isOver)
  · rw [he]
    exact hb

theorem becomes_run (routes : Routes) (c : Conn) :
    c.link.sock.Becomes (run routes c).2.link.sock := by
  have hread := Conn.becomes_readRequest c isOver
  unfold run
  generalize c.readRequest isOver = r at hread ⊢
  obtain ⟨how, c₁⟩ := r
  match how with
  | .clean | .interrupted | .stuck => exact hread
  | .request q => exact hread.trans (becomes_answer routes c₁.link q)
  | .failed e =>
      dsimp only
      split
      · exact hread
      · rw [respond_eq]
        exact hread.trans (Conn.becomes_writeResponse c₁.link _ isOver)

end Cycle

/-! ## Sessions -/

/-- **A session that has come to its end has taken its connection out of its set.** If the sock
of the connection has an entry in a table, the operations of the session lead the entry to the
state of the sock, whatever is done to other connections between them. -/
theorem WebSocket.Session.not_mem_members_of_run (cfg : SessionConfig) (buffered : Bytes)
    {l : Link} {t : SockTable} {n i home : Nat} (ht : t.IsEntry n i home l.sock) :
    ∃ ops, ∀ ms, opsOn i ms = ops →
      (t.run ms).IsEntry n i home (run cfg buffered false l).2.sock ∧
        ((run cfg buffered false l).1 = true → i ∉ (t.run ms).members home) := by
  obtain ⟨hbecomes, hclosed⟩ := sock_run cfg buffered false l
  obtain ⟨ops, hops⟩ := ht.becomes hbecomes
  refine ⟨ops, fun ms hms => ⟨hops ms hms, fun hdone => ?_⟩⟩
  exact (hops ms hms).not_mem_members (hclosed rfl hdone)

/-! ## Whole connections -/

namespace Service

variable {cfg : ServeConfig} {s s' : Service} {r : Bool × Service}

theorem becomes_claim (s : Service) :
    s.conn.link.sock.Becomes s.claim.2.conn.link.sock :=
  s.conn.link.sock.becomes_perform .beginCycle

theorem becomes_prepare (s : Service) :
    s.conn.link.sock.Becomes s.prepare.2.conn.link.sock := by
  have hfill := s.conn.becomes_fill fun l => l.sock.isClosed || l.shutdown
  unfold prepare
  split
  · exact s.becomes_claim
  · generalize s.conn.fill (fun l => l.sock.isClosed || l.shutdown) = r at hfill ⊢
    obtain ⟨how, conn⟩ := r
    match how with
    | .filled 0 | .failed | .interrupted | .stuck => exact hfill
    | .filled (n + 1) => exact hfill.trans (becomes_claim { s with conn })

theorem becomes_runCycle (cfg : ServeConfig) (s : Service) :
    s.conn.link.sock.Becomes (runCycle cfg s).2.conn.link.sock := by
  have hcycle := Cycle.becomes_run cfg.routes s.conn
  unfold runCycle
  split
  · exact hcycle
  · dsimp only
    split
    · exact .refl _
    · split
      · exact hcycle
      · exact .refl _

theorem becomes_release (s : Service) :
    s.conn.link.sock.Becomes s.release.2.conn.link.sock :=
  s.conn.link.sock.becomes_perform (.endCycle s.conn.link.now)

/-- Serving goes on to a result: nothing happens to the sock but operations, and it is closed when
serving has come to its end. -/
structure Ends (s : Service) (r : Bool × Service) : Prop where
  becomes : s.conn.link.sock.Becomes r.2.conn.link.sock
  closed : r.1 = true → r.2.conn.link.sock.isClosed = true

theorem Ends.after (h : s'.Ends r) (hb : s.conn.link.sock.Becomes s'.conn.link.sock) :
    s.Ends r := ⟨hb.trans h.becomes, h.closed⟩

theorem ends_of_unfinished (hb : s.conn.link.sock.Becomes s'.conn.link.sock) :
    s.Ends (false, s') := ⟨hb, fun h => by contradiction⟩

theorem ends_close (s : Service) : s.Ends s.close :=
  ⟨Link.becomes_closeSock _, fun _ => Link.isClosed_closeSock _⟩

theorem ends_turnAway (s : Service) : s.Ends s.turnAway := by
  have hwrite := Conn.becomes_writeResponse s.conn.link
    (Response.Writer.ofResponse .serviceUnavailable .closing) fun _ => false
  unfold turnAway
  dsimp only
  split
  · next hw =>
      rw [hw] at hwrite
      exact ends_of_unfinished hwrite
  · next hw =>
      rw [hw] at hwrite
      exact ⟨hwrite.trans (Link.becomes_closeSock _), fun _ => Link.isClosed_closeSock _⟩

theorem ends_runSession (cfg : ServeConfig) (s : Service) (h : WebSocket.Handler) :
    s.Ends (runSession cfg s h) := by
  obtain ⟨hrun, _⟩ := WebSocket.Session.sock_run
    { handler := h, limit := cfg.messageLimit, patience := s.conn.patience }
    s.conn.reader.buffer false s.conn.link
  unfold runSession
  dsimp only
  split
  · next hr =>
      rw [hr] at hrun
      exact ⟨hrun.trans (Link.becomes_closeSock _), fun _ => Link.isClosed_closeSock _⟩
  · next hr =>
      rw [hr] at hrun
      exact ends_of_unfinished hrun

/-- When the sock is released serving goes on, unless it has been closed meanwhile. -/
theorem ends_released {go : Service → Bool × Service} (hgo : ∀ s : Service, s.Ends (go s))
    (s : Service) :
    s.Ends (match s.release with
      | (true, s) => go s
      | (false, s) => s.close) := by
  have hrelease := s.becomes_release
  split
  · next s₁ hs₁ =>
      rw [hs₁] at hrelease
      exact (hgo s₁).after hrelease
  · next s₁ hs₁ =>
      rw [hs₁] at hrelease
      exact s₁.ends_close.after hrelease

/-- Serving ends, or goes on from where a cycle has left the connection. -/
theorem ends_serveWithin (cfg : ServeConfig) (n : Nat) (s : Service) :
    s.Ends (serveWithin cfg n s) := by
  induction n generalizing s with
  | zero => exact ends_of_unfinished (.refl _)
  | succ n ih =>
      have hprepare := s.becomes_prepare
      rw [serveWithin]
      generalize s.prepare = prepared at hprepare ⊢
      obtain ⟨before, s₁⟩ := prepared
      match before with
      | .stop => exact s₁.ends_close.after hprepare
      | .stuck => exact ends_of_unfinished hprepare
      | .go =>
          have hcycle := hprepare.trans (becomes_runCycle cfg s₁)
          dsimp only
          generalize runCycle cfg s₁ = ran at hcycle ⊢
          obtain ⟨next, s₂⟩ := ran
          refine Ends.after ?_ hcycle
          match next with
          | .turnedAway => exact s₂.ends_turnAway
          | .stranded => exact ends_of_unfinished (Link.becomes_await _ _ _)
          | .ran .close => exact s₂.ends_close
          | .ran .stuck => exact ends_of_unfinished (.refl _)
          | .ran .keepAlive =>
              refine ends_released (fun s => ?_) s₂
              split
              · exact s.ends_close
              · exact ih s
          | .ran (.upgrade h) => exact ends_released (fun s => ends_runSession cfg s h) s₂

/-- Nothing happens to the sock of a connection but operations, and it is closed when serving has
come to its end. -/
theorem sock_serve (cfg : ServeConfig) (s : Service) : s.Ends (serve cfg s) :=
  ends_serveWithin cfg _ s

/-- **A connection that has been served is in no set any more.** Whatever was done to the
connections before, it is registered, and then served. The operations of serving lead its entry
to the state of its sock, whatever is done to other connections between them, and when serving
has come to its end it has left its set. -/
theorem not_mem_members_of_serve (cfg : ServeConfig) (n : Nat) (ds : List SockTable.Deed)
    {home : Nat} (hhome : home < n) {peer : String} {now : Nat}
    (hs : s.conn.link.sock = { peer, lastActive := now }) :
    let before := (SockTable.ofSets n).afterAll ds
    let i := before.entries.length
    ∃ ops, ∀ ms, opsOn i ms = ops →
      let after := (before.register home peer now).run ms
      after.IsEntry n i home (serve cfg s).2.conn.link.sock ∧
        ((serve cfg s).1 = true → i ∉ after.members home) := by
  intro before i
  have hkept : before.Kept n := (SockTable.kept_ofSets n).afterAll ds
  have hserve := sock_serve cfg s
  have hentry := SockTable.isEntry_register hkept hhome peer now
  obtain ⟨ops, hops⟩ := hentry.becomes (hs ▸ hserve.becomes)
  refine ⟨ops, fun ms hms => ⟨hops ms hms, fun hdone => ?_⟩⟩
  exact (hops ms hms).not_mem_members (hserve.closed hdone)

end Service

end WebServer
