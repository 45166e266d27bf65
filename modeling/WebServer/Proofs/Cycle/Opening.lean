import WebServer.Proofs.Cycle.HeadOnly
import WebServer.Proofs.WebSocket.Opening

/-!
# WebServer.Proofs.Cycle.Opening

What becomes of a request on a path to sessions. Its cycle runs no chain and calls no hook
(`idles_run`); it switches protocols if the request opens a session, and else writes one
response (`plan_cases`).

Main statement: which of the three it is, how the cycle then ends, and the bytes that are written
(`run_upgrades_iff`).
-/

namespace WebServer

namespace Cycle

open Response Response.Writer WebSocket WebSocket.Handshake

variable {routes : Routes} {c : Conn} {q : Request} {h : WebSocket.Handler}
  {r : Route.Resolved Endpoint Interceptor} {l : Link} {n : Nat}

/-! ## What a request on a path to sessions leads to -/

/-- A request on a path to sessions switches protocols, or is told to ask for it, or is told what
is wrong with how it asks. -/
theorem plan_cases (hr : routes.resolve q.path = some r) (hh : r.endpoint = .socket h) :
    (∃ key, Opens q key ∧
      plan routes q = .upgrade (.withBody .switchingProtocols (switching key) []) h) ∨
    (¬ Asks q ∧ plan routes q = .respond upgradeRequired (.ofRequest q)) ∨
    ∃ e, Asks q ∧ Refuses q e ∧ plan routes q = .respond e.response .closing := by
  unfold plan
  rw [hr]
  dsimp only
  rw [hh]
  dsimp only
  by_cases hasks : Asks q
  · rw [(isUpgrade_iff q).2 hasks, Handshake.response]
    obtain ⟨key, hopens, hvalid⟩ | ⟨e, hrefuses, hvalid⟩ := validate_of_asks hasks
    · rw [hvalid]
      exact .inl ⟨key, hopens, rfl⟩
    · rw [hvalid]
      exact .inr (.inr ⟨e, hasks, hrefuses, rfl⟩)
  · have hplain : isUpgrade q = false := by
      rw [← Bool.not_eq_true, isUpgrade_iff]
      exact hasks
    rw [hplain]
    exact .inr (.inl ⟨hasks, rfl⟩)

/-- Such a request runs no chain. -/
theorem plan_ne_run (hr : routes.resolve q.path = some r) (hh : r.endpoint = .socket h)
    (chain : ChainRun) (ex : Exchange) : plan routes q ≠ .run chain ex := by
  obtain ⟨_, _, hplan⟩ | ⟨_, hplan⟩ | ⟨_, _, _, hplan⟩ := plan_cases hr hh <;>
  · rw [hplan]
    exact Plan.noConfusion

/-! ## What is written -/

/-- The head of a response, and its body behind it if there is one, are all that is written. -/
def IsPage (w : Writer) (s : Status) (fields : List (String × String)) (body : List Bytes) : Prop :=
  ∃ n, w.plan = { writes := headBytes s ⟨fields⟩ :: body, ending := .sent n }

theorem IsPage.output_eq {w : Writer} {s : Status} {fields : List (String × String)}
    {body : List Bytes} (hw : IsPage w s fields body) :
    w.output = headBytes s ⟨fields⟩ ++ body.flatten := by
  obtain ⟨n, hplan⟩ := hw
  rw [output, hplan, List.append_nil, List.flatten_cons]

section Pages

variable {s : Status} {fs : Headers}

/-- A response that does not speak of the connection leaves it to the request. -/
theorem writer_of_page (bs : Bytes) (ex : Exchange) (hconnection : fs.getAll "Connection" = []) :
    (Plan.respond (.withBody s fs bs) ex).writer = ofResponse (.withBody s fs bs) ex := by
  have hquiet : (Response.withBody s fs bs).headers.getAll "Connection" = [] := by
    unfold Response.withBody
    dsimp only
    split
    · exact (Headers.getAll_insert_of_ne _ _ (by decide)).trans hconnection
    · exact hconnection
  have hclose : (Response.withBody s fs bs).headers.hasToken "Connection" "close" = false := by
    rw [Headers.hasToken, hquiet]
    rfl
  rw [Plan.writer, Plan.exchange, announced, Plan.response, hclose]
  rfl

/-- Such a response is written as a whole, and says whether the connection ends. -/
theorem isPage_of_page (bs : Bytes) (ex : Exchange) (hs : s.allowsBody = true)
    (hlength : fs.getAll "Content-Length" = []) (hcoding : fs.getAll "Transfer-Encoding" = [])
    (hconnection : fs.getAll "Connection" = []) :
    IsPage (Plan.respond (.withBody s fs bs) ex).writer s
      (fs.entries ++ ("Content-Length", toString bs.length) ::
        if ex.keepAlive then [] else [("Connection", "close")])
      (if ex.headOnly then [] else [bs]) := by
  rw [IsPage, writer_of_page bs ex hconnection,
    ← fields_withBody bs ex hs hlength hcoding hconnection]
  cases hhead : ex.headOnly with
  | true => exact ⟨_, plan_of_headOnly _ hhead⟩
  | false => exact ⟨_, plan_of_full rfl hs hhead⟩

/-- Such a response ends the connection unless it may stay. -/
theorem finish_of_page (bs : Bytes) (ex : Exchange) (hs : s.allowsBody = true)
    (hconnection : fs.getAll "Connection" = []) :
    (Plan.respond (.withBody s fs bs) ex).finish (.sent n) =
      if ex.keepAlive then .keepAlive else .close := by
  have hfull : (Response.withBody s fs bs).bodyFraming ex = .full := if_pos hs
  rw [Plan.finish, writer_of_page bs ex hconnection, keepAlive_ofResponse, hfull]
  cases ex.keepAlive <;> rfl

end Pages

/-- To switch protocols a head is written, without a field for a body. -/
theorem isPage_of_upgrade (key : String) (h : WebSocket.Handler) :
    IsPage (Plan.upgrade (.withBody .switchingProtocols (switching key) []) h).writer
      .switchingProtocols (switching key).entries [] := by
  have hframe : frame (.withBody .switchingProtocols (switching key) []) .stay =
      (.empty, switching key) := by
    have hnone : (switching key).getAll "Transfer-Encoding" = [] := by
      simp only [switching, Headers.getAll, Headers.named, List.map_eq_nil_iff,
        List.filter_eq_nil_iff, List.forall_mem_cons]
      decide
    have hstatus : (Response.withBody .switchingProtocols (switching key) []).status =
        .switchingProtocols := rfl
    rw [frame_of_not_allowsBody rfl, if_pos hstatus]
    exact congrArg _ (Headers.erase_of_getAll_eq_nil hnone)
  refine ⟨0, ?_⟩
  show (ofResponse (.withBody .switchingProtocols (switching key) []) .stay).plan = _
  rw [ofResponse, hframe]
  rfl

theorem upgradeRequired_eq :
    upgradeRequired = .withBody .upgradeRequired
      ⟨[("Upgrade", "websocket"), ("Content-Type", "text/plain")]⟩ (utf8 "426 Upgrade Required") :=
  rfl

/-- A request that does not ask for a session is told so. -/
theorem isPage_upgradeRequired (q : Request) :
    IsPage (Plan.respond upgradeRequired (.ofRequest q)).writer .upgradeRequired
      ([("Upgrade", "websocket"), ("Content-Type", "text/plain"), ("Content-Length", "20")] ++
        if q.keepAlive then [] else [("Connection", "close")])
      (if q.method = .head then [] else [utf8 "426 Upgrade Required"]) := by
  have hpage := @isPage_of_page .upgradeRequired
    ⟨[("Upgrade", "websocket"), ("Content-Type", "text/plain")]⟩
    (utf8 "426 Upgrade Required") (.ofRequest q) rfl rfl rfl rfl
  have hlength : toString (utf8 "426 Upgrade Required").length = "20" := by decide +kernel
  have hbody : (if (Exchange.ofRequest q).headOnly then [] else [utf8 "426 Upgrade Required"]) =
      if q.method = .head then [] else [utf8 "426 Upgrade Required"] := by
    simp only [Exchange.ofRequest, decide_eq_true_eq]
  rw [hlength, hbody, ← upgradeRequired_eq] at hpage
  exact hpage

theorem response_of_error (e : Handshake.Error) :
    e.response = .withBody .badRequest ⟨("Content-Type", "text/plain") :: e.versionFields⟩
      (utf8 e.message) := by
  cases e <;> rfl

/-- A page of what is wrong has no other fields than these two. -/
theorem getAll_of_error (e : Handshake.Error) {name : String}
    (htype : sameName "Content-Type" name = false)
    (hversion : sameName "Sec-WebSocket-Version" name = false) :
    (⟨("Content-Type", "text/plain") :: e.versionFields⟩ : Headers).getAll name = [] := by
  rw [Headers.getAll, List.filter_cons_of_neg (by simpa [Headers.named] using htype)]
  cases e <;> simp [Error.versionFields, Headers.named, hversion]

/-- A request that is refused is told why. -/
theorem isPage_of_error (e : Handshake.Error) :
    IsPage (Plan.respond e.response .closing).writer .badRequest
      ([("Content-Type", "text/plain")] ++ e.versionFields ++
        [("Content-Length", toString (utf8 e.message).length), ("Connection", "close")])
      [utf8 e.message] := by
  rw [response_of_error]
  exact isPage_of_page (utf8 e.message) .closing rfl (getAll_of_error e (by decide) (by decide))
    (getAll_of_error e (by decide) (by decide)) (getAll_of_error e (by decide) (by decide))

/-! ## Whole cycles -/

/-- One response is written between two states of a link, and nothing else. -/
def WritesResponse (l l' : Link) (s : Status) (fields : List (String × String)) (body : Bytes) :
    Prop :=
  l'.sink.output = l.sink.output ++ (headBytes s ⟨fields⟩ ++ body)

/-- A cycle whose response is sent ends as the plan is finished, with the response written. -/
theorem run_of_isPage {s : Status} {fields : List (String × String)} {body : List Bytes}
    (hq : (c.readRequest isOver).1 = .request q)
    (hn : Writes routes (c.readRequest isOver).2.link q (.sent n))
    (hpage : IsPage (plan routes q).writer s fields body) :
    (run routes c).1 = (plan routes q).finish (.sent n) ∧
      WritesResponse c.link (run routes c).2.link s fields body.flatten := by
  obtain ⟨hend, hlink⟩ := run_of_request routes hq
  obtain ⟨l₀, l₁, hsink, hwrite, hanswer⟩ := answer_of_writes hn
  rw [WritesResponse, hend, hlink, hanswer]
  refine ⟨rfl, ?_⟩
  rw [(Conn.output_of_writeResponse hwrite).1, hsink, sink_readRequest, hpage.output_eq]

/-- Nothing has to be waited for. -/
theorem prepare_of_socket (hr : routes.resolve q.path = some r) (hh : r.endpoint = .socket h)
    (l : Link) : (plan routes q).prepare l = .ok l := by
  obtain ⟨_, _, hplan⟩ | ⟨_, hplan⟩ | ⟨_, _, _, hplan⟩ := plan_cases hr hh <;>
  · rw [hplan]
    rfl

/-- Nothing is called in the cycle of a request on a path to sessions. -/
theorem idles_run (hq : (c.readRequest isOver).1 = .request q)
    (hr : routes.resolve q.path = some r) (hh : r.endpoint = .socket h) :
    c.link.Idles (run routes c).2.link := by
  obtain ⟨_, hlink⟩ := run_of_request routes hq
  rw [hlink, answer_eq_finish, prepare_of_socket hr hh]
  exact (Conn.idles_readRequest c isOver).trans (Conn.idles_writeResponse _ _ _)

/-- A client that takes everything is sent the response. -/
theorem writes_of_isPage {s : Status} {fields : List (String × String)} {body : List Bytes}
    (hr : routes.resolve q.path = some r) (hh : r.endpoint = .socket h) (hopen : l.sink.IsOpen)
    (hpage : IsPage (plan routes q).writer s fields body) : ∃ n, Writes routes l q (.sent n) := by
  obtain ⟨n, hplan⟩ := hpage
  have hend : Conn.completeEnd (plan routes q).writer = .sent n := by rw [Conn.completeEnd, hplan]
  refine ⟨n, ?_⟩
  rw [← hend]
  exact writes_of_isOpen hopen (prepare_of_socket hr hh l) (by rw [hplan])

/-- Whichever it is, one response is written. -/
theorem isPage_of_socket (hr : routes.resolve q.path = some r) (hh : r.endpoint = .socket h) :
    ∃ s fields body, IsPage (plan routes q).writer s fields body := by
  obtain ⟨key, _, hplan⟩ | ⟨_, hplan⟩ | ⟨e, _, _, hplan⟩ := plan_cases hr hh <;> rw [hplan]
  · exact ⟨_, _, _, isPage_of_upgrade key h⟩
  · exact ⟨_, _, _, isPage_upgradeRequired q⟩
  · exact ⟨_, _, _, isPage_of_error e⟩

/-- A request that opens a session hands the connection over. -/
theorem run_of_opens {key : String} (hq : (c.readRequest isOver).1 = .request q)
    (hn : Writes routes (c.readRequest isOver).2.link q (.sent n))
    (hplan : plan routes q = .upgrade (.withBody .switchingProtocols (switching key) []) h) :
    (run routes c).1 = .upgrade h ∧
      WritesResponse c.link (run routes c).2.link .switchingProtocols (switching key).entries [] := by
  obtain ⟨hended, hwrites⟩ := run_of_isPage hq hn (hplan ▸ isPage_of_upgrade key h)
  refine ⟨hended.trans ?_, hwrites⟩
  rw [hplan]
  rfl

/-- A request that does not ask for a session leaves the connection as it wants it. -/
theorem run_of_not_asks (hq : (c.readRequest isOver).1 = .request q)
    (hn : Writes routes (c.readRequest isOver).2.link q (.sent n))
    (hplan : plan routes q = .respond upgradeRequired (.ofRequest q)) :
    (run routes c).1 = (if q.keepAlive then .keepAlive else .close) ∧
      WritesResponse c.link (run routes c).2.link .upgradeRequired
        ([("Upgrade", "websocket"), ("Content-Type", "text/plain"), ("Content-Length", "20")] ++
          if q.keepAlive then [] else [("Connection", "close")])
        (if q.method = .head then [] else utf8 "426 Upgrade Required") := by
  obtain ⟨hended, hwrites⟩ := run_of_isPage hq hn (hplan ▸ isPage_upgradeRequired q)
  have hbody : (if q.method = .head then [] else [utf8 "426 Upgrade Required"]).flatten =
      if q.method = .head then [] else utf8 "426 Upgrade Required" := by
    split <;> simp
  rw [hbody] at hwrites
  refine ⟨hended.trans ?_, hwrites⟩
  rw [hplan, upgradeRequired_eq]
  exact finish_of_page _ _ rfl rfl

/-- A request that is refused ends the connection. -/
theorem run_of_refuses {e : Handshake.Error} (hq : (c.readRequest isOver).1 = .request q)
    (hn : Writes routes (c.readRequest isOver).2.link q (.sent n))
    (hplan : plan routes q = .respond e.response .closing) :
    (run routes c).1 = .close ∧
      WritesResponse c.link (run routes c).2.link .badRequest
        ([("Content-Type", "text/plain")] ++ e.versionFields ++
          [("Content-Length", toString (utf8 e.message).length), ("Connection", "close")])
        (utf8 e.message) := by
  obtain ⟨hended, hwrites⟩ := run_of_isPage hq hn (hplan ▸ isPage_of_error e)
  rw [List.flatten_singleton] at hwrites
  refine ⟨hended.trans ?_, hwrites⟩
  rw [hplan, response_of_error]
  exact finish_of_page _ _ rfl (getAll_of_error e (by decide) (by decide))

/-- **Who switches protocols, and what the others are told.** The cycle of a request on a path to
sessions runs no chain and calls no hook, and a client that takes everything is sent a response.
Once it is sent:

* the cycle ends with an upgrade exactly if the request opens a session, with GET, both tokens,
  the version and a key of sixteen bytes, and a head without a field for a body is all that is
  written;
* if the request does not ask for a session, that is all it is told, and the connection stays as
  the request wants it;
* in all other cases the connection ends with a page of what is wrong first, and the version is
  named exactly if that is what is wrong. -/
theorem run_upgrades_iff (routes : Routes) (hq : (c.readRequest isOver).1 = .request q)
    (hr : routes.resolve q.path = some r) (hh : r.endpoint = .socket h) :
    let l := (c.readRequest isOver).2.link
    let ended := (run routes c).1
    let writes := WritesResponse c.link (run routes c).2.link
    (∀ chain ex, plan routes q ≠ .run chain ex) ∧
    c.link.Idles (run routes c).2.link ∧
    (c.link.sink.IsOpen → ∃ n, Writes routes l q (.sent n)) ∧
    ∀ n, Writes routes l q (.sent n) →
      ((∃ h', ended = .upgrade h') ↔ ∃ key, Opens q key) ∧
      (∀ key, Opens q key → ended = .upgrade h ∧
        writes .switchingProtocols
          [("Upgrade", "websocket"), ("Connection", "Upgrade"),
            ("Sec-WebSocket-Accept", accept key)] []) ∧
      (¬ Asks q → ended = (if q.keepAlive then .keepAlive else .close) ∧
        writes .upgradeRequired
          ([("Upgrade", "websocket"), ("Content-Type", "text/plain"), ("Content-Length", "20")] ++
            if q.keepAlive then [] else [("Connection", "close")])
          (if q.method = .head then [] else utf8 "426 Upgrade Required")) ∧
      (Asks q → (¬ ∃ key, Opens q key) → ended = .close ∧
        ∃ e, Refuses q e ∧
          writes .badRequest
            ([("Content-Type", "text/plain")] ++ e.versionFields ++
              [("Content-Length", toString (utf8 e.message).length), ("Connection", "close")])
            (utf8 e.message) ∧
          (e.versionFields = [("Sec-WebSocket-Version", "13")] ↔
            q.method = .get ∧ field q "Sec-WebSocket-Version" ≠ some "13")) := by
  intro l ended writes
  refine ⟨plan_ne_run hr hh, idles_run hq hr hh, fun hopen => ?_, fun n hn => ?_⟩
  · obtain ⟨s, fields, body, hpage⟩ := isPage_of_socket hr hh
    exact writes_of_isPage hr hh (sink_readRequest c isOver ▸ hopen) hpage
  obtain ⟨key, hopens, hplan⟩ | ⟨hasks, hplan⟩ | ⟨e, hasks, hrefuses, hplan⟩ := plan_cases hr hh
  · obtain ⟨hended, hwrites⟩ := run_of_opens hq hn hplan
    refine ⟨iff_of_true ⟨h, hended⟩ ⟨key, hopens⟩, fun key' hopens' => ⟨hended, ?_⟩,
      fun hno => absurd hopens.asks hno, fun _ hno => absurd ⟨key, hopens⟩ hno⟩
    obtain rfl := hopens.key_eq hopens'
    exact hwrites
  · obtain ⟨hended, hwrites⟩ := run_of_not_asks hq hn hplan
    have hno : ¬ ∃ key, Opens q key := fun ⟨_, hopens⟩ => hasks hopens.asks
    have hstays : ¬ ∃ h', ended = .upgrade h' := by
      rintro ⟨h', hupgrade⟩
      have hclash := hended.symm.trans hupgrade
      split at hclash <;> contradiction
    exact ⟨iff_of_false hstays hno, fun key hopens => absurd ⟨key, hopens⟩ hno,
      fun _ => ⟨hended, hwrites⟩, fun hyes => absurd hyes hasks⟩
  · obtain ⟨hended, hwrites⟩ := run_of_refuses hq hn hplan
    have hno : ¬ ∃ key, Opens q key := fun ⟨_, hopens⟩ => hopens.not_refuses hrefuses
    have hstays : ¬ ∃ h', ended = .upgrade h' := by
      rintro ⟨h', hupgrade⟩
      have hclash := hended.symm.trans hupgrade
      contradiction
    have hversion := e.versionFields_eq_iff.trans hrefuses.version_iff
    exact ⟨iff_of_false hstays hno, fun key hopens => absurd ⟨key, hopens⟩ hno,
      fun hplain => absurd hasks hplain,
      fun _ _ => ⟨hended, e, hrefuses, hwrites, hversion⟩⟩

/-- The key of the standard's example, sent with the version and with another one. -/
theorem run_upgrades_iff_of_key :
    let conn (version : String) : Conn :=
      { reader := { limits := {} }
        link := { inbox := utf8 ("GET /ws HTTP/1.1\r\nupgrade: WebSocket\r\n" ++
          "Connection: keep-alive, Upgrade\r\nSec-WebSocket-Key: dGhlIHNhbXBsZSBub25jZQ==\r\n" ++
          "Sec-WebSocket-Version: " ++ version ++ "\r\n\r\n") }
        patience := 25 }
    let q (version : String) : Request :=
      { method := .get, path := "/ws"
        headers := ⟨[("upgrade", "WebSocket"), ("Connection", "keep-alive, Upgrade"),
          ("Sec-WebSocket-Key", "dGhlIHNhbXBsZSBub25jZQ=="), ("Sec-WebSocket-Version", version)]⟩ }
    let h : WebSocket.Handler := { name := "session" }
    ((conn "13").readRequest isOver).1 = .request (q "13") ∧
      ((conn "8").readRequest isOver).1 = .request (q "8") ∧
      (run sessionRoutes (conn "13")).1 = .upgrade h ∧
      (run sessionRoutes (conn "13")).2.link.sink.output =
        utf8 ("HTTP/1.1 101 Switching Protocols\r\nUpgrade: websocket\r\n" ++
          "Connection: Upgrade\r\nSec-WebSocket-Accept: s3pPLMBiTxaQ9kYGzzhZRbK+xOo=\r\n\r\n") ∧
      (run sessionRoutes (conn "8")).1 = .close := by
  intro conn q h
  have hq : ((conn "13").readRequest isOver).1 = .request (q "13") := by decide +kernel
  have hq' : ((conn "8").readRequest isOver).1 = .request (q "8") := by decide +kernel
  obtain ⟨r, hr, hh⟩ : ∃ r, sessionRoutes.resolve "/ws" = some r ∧ r.endpoint = .socket h :=
    ⟨_, rfl, rfl⟩
  have hopens : Opens (q "13") "dGhlIHNhbXBsZSBub25jZQ==" :=
    { isGet := rfl
      asks := (isUpgrade_iff _).1 (by decide +kernel)
      hasVersion := by decide +kernel
      hasKey := by decide +kernel
      isNonce := (isNonce_iff _).1 (by decide +kernel) }
  have hasks : Asks (q "8") := (isUpgrade_iff _).1 (by decide +kernel)
  have hversion : field (q "8") "Sec-WebSocket-Version" ≠ some "13" := by decide +kernel
  obtain ⟨_, _, hsent, hends⟩ := run_upgrades_iff sessionRoutes hq hr hh
  obtain ⟨_, _, hsent', hends'⟩ := run_upgrades_iff sessionRoutes hq' hr hh
  obtain ⟨n, hn⟩ := hsent ⟨by decide, rfl, rfl⟩
  obtain ⟨n', hn'⟩ := hsent' ⟨by decide, rfl, rfl⟩
  obtain ⟨hended, hwrites⟩ := (hends n hn).2.1 _ hopens
  refine ⟨hq, hq', hended, ?_, ?_⟩
  · rw [hwrites]
    decide +kernel
  · exact ((hends' n' hn').2.2.2 hasks fun ⟨_, h'⟩ => hversion h'.hasVersion).1

end Cycle

end WebServer
