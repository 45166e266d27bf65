import WebServer.Proofs.Headers
import WebServer.Proofs.Response.Sending

/-!
# WebServer.Proofs.Response.Head

What the head of a response says of its body. The writer gives `Content-Length` and
`Transfer-Encoding` the values that the framing needs (`Declares`), with one
exception: a `Content-Length` of the handler that fits is kept with all that goes by
its name (`Misdeclares`).

Main statement: a head declares its framing once and truthfully exactly when the
handler's own declaration does not stand in the way (`declares_iff`).
-/

namespace WebServer

namespace Response

variable {r : Response} {ex : Exchange} {m : String} {n : Nat}

/-! ## Declarations -/

/-- The values of `Content-Length` that declare a framing of a response's body. -/
def Framing.lengths (r : Response) : Framing → List String
  | .full => r.bytes?.toList.map fun bs => toString bs.length
  | .length n => [toString n]
  | .empty | .chunked | .untilClose => []

/-- The values of `Transfer-Encoding` that declare a framing. -/
def Framing.codings : Framing → List String
  | .chunked => ["chunked"]
  | .empty | .full | .length _ | .untilClose => []

/-- Header fields declare a framing of a response's body, once and truthfully. -/
structure Declares (r : Response) (f : Framing) (h : Headers) : Prop where
  lengths : h.getAll "Content-Length" = f.lengths r
  codings : h.getAll "Transfer-Encoding" = f.codings

/-- The length that the writer takes over from the handler: what the first
`Content-Length` says, if the body may have that length. -/
def keptLength? (r : Response) : Option Nat :=
  match r.body with
  | .full bs =>
      if r.headers.get? "Content-Length" = some (toString bs.length) then some bs.length else none
  | .stream _ _ => (r.headers.get? "Content-Length").bind fun v => decimal? (trimText v)

/-- How the end of a body is told: it is there as a whole, its length is declared, or
it ends with its last chunk or with the connection. -/
def bodyFraming (r : Response) (ex : Exchange) : Framing :=
  if r.status.allowsBody then
    match r.body, r.keptLength? with
    | .full _, _ => .full
    | .stream _ _, some n => .length n
    | .stream _ _, none => if ex.http10 then .untilClose else .chunked
  else .empty

/-- The handler's declaration fits by its first value, and says something else as
well, or says it in another way. -/
def Misdeclares (r : Response) : Prop :=
  r.status.allowsBody = true ∧
    ∃ n, r.keptLength? = some n ∧ r.headers.getAll "Content-Length" ≠ [toString n]

namespace Writer

/-! ## The framing -/

theorem frame_of_not_allowsBody (ha : r.status.allowsBody = false) :
    frame r ex = (.empty,
      (if r.status = .switchingProtocols then r.headers
        else r.headers.erase "Content-Length").erase "Transfer-Encoding") := by
  simp only [frame, ha, Bool.not_false, if_true]

/-- A length that is kept leaves the fields of the handler as they are. -/
theorem frame_of_kept (ha : r.status.allowsBody = true) (hk : r.keptLength? = some n) :
    frame r ex =
      (match r.body with
        | .full _ => .full
        | .stream _ _ => .length n, r.headers.erase "Transfer-Encoding") := by
  cases hb : r.body with
  | full bs =>
      simp only [keptLength?, hb, Option.ite_none_right_eq_some] at hk
      simp only [frame, ha, hb, hk.1, Bool.not_true, Bool.false_eq_true, if_false, if_true]
  | stream ps held =>
      simp only [keptLength?, hb] at hk
      simp only [frame, ha, hb, hk, Bool.not_true, Bool.false_eq_true, if_false]

/-- Otherwise the framing is declared afresh. -/
theorem frame_of_not_kept (ha : r.status.allowsBody = true) (hk : r.keptLength? = none) :
    frame r ex =
      match r.body with
      | .full bs =>
          (.full, (r.headers.insert "Content-Length" (toString bs.length)).erase
            "Transfer-Encoding")
      | .stream _ _ =>
          let h := r.headers.erase "Content-Length"
          if ex.http10 then (.untilClose, h.erase "Transfer-Encoding")
          else (.chunked, h.insert "Transfer-Encoding" "chunked") := by
  cases hb : r.body with
  | full bs =>
      have hfits : r.headers.get? "Content-Length" ≠ some (toString bs.length) := by
        intro hfits
        simp [keptLength?, hb, hfits] at hk
      simp only [frame, ha, hb, hfits, Bool.not_true, Bool.false_eq_true, if_false]
  | stream ps held =>
      simp only [keptLength?, hb] at hk
      simp only [frame, ha, hb, hk, Bool.not_true, Bool.false_eq_true, if_false]

/-- The framing that a response gets. -/
theorem framing_eq (r : Response) (ex : Exchange) : (frame r ex).1 = r.bodyFraming ex := by
  unfold bodyFraming
  cases ha : r.status.allowsBody with
  | false =>
      rw [frame_of_not_allowsBody ha]
      rfl
  | true =>
      rw [if_pos rfl]
      cases hk : r.keptLength? with
      | some n =>
          rw [frame_of_kept ha hk]
          cases r.body <;> rfl
      | none =>
          rw [frame_of_not_kept ha hk]
          cases r.body with
          | full bs => rfl
          | stream ps held => cases ex.http10 <;> rfl

/-- The length that is kept is the one of the framing. -/
theorem lengths_of_kept (ha : r.status.allowsBody = true) (hk : r.keptLength? = some n) :
    (frame r ex).1.lengths r = [toString n] := by
  rw [frame_of_kept ha hk]
  cases hb : r.body with
  | full bs =>
      simp only [keptLength?, hb, Option.ite_none_right_eq_some, Option.some.injEq] at hk
      simp [Framing.lengths, bytes?, hb, hk.2]
  | stream ps held => rfl

/-! ## The fields of the framing -/

/-- The transfer coding is declared truthfully. -/
theorem getAll_frame_codings (r : Response) (ex : Exchange) :
    (frame r ex).2.getAll "Transfer-Encoding" = (frame r ex).1.codings := by
  unfold frame
  dsimp only
  repeat' split
  all_goals simp only [Headers.getAll_erase_self, Headers.getAll_insert_self, Framing.codings]

/-- A length that is kept stands with all that goes by its name. -/
theorem getAll_frame_lengths_of_kept (ha : r.status.allowsBody = true)
    (hk : r.keptLength? = some n) :
    (frame r ex).2.getAll "Content-Length" = r.headers.getAll "Content-Length" := by
  rw [frame_of_kept ha hk]
  exact Headers.getAll_erase_of_ne _ (by decide)

/-- Otherwise the length is declared truthfully. -/
theorem getAll_frame_lengths_of_not_kept (hs : r.status ≠ .switchingProtocols)
    (hk : r.status.allowsBody = true → r.keptLength? = none) :
    (frame r ex).2.getAll "Content-Length" = (frame r ex).1.lengths r := by
  have hne : sameName "Transfer-Encoding" "Content-Length" = false := by decide
  cases ha : r.status.allowsBody with
  | false =>
      rw [frame_of_not_allowsBody ha, if_neg hs, Headers.getAll_erase_of_ne _ hne,
        Headers.getAll_erase_self]
      rfl
  | true =>
      rw [frame_of_not_kept ha (hk ha)]
      cases hb : r.body with
      | full bs =>
          rw [Headers.getAll_erase_of_ne _ hne, Headers.getAll_insert_self]
          simp [Framing.lengths, bytes?, hb]
      | stream ps held =>
          cases ex.http10 with
          | false =>
              show Headers.getAll (Headers.insert _ _ _) _ = []
              rw [Headers.getAll_insert_of_ne _ _ hne, Headers.getAll_erase_self]
          | true =>
              show Headers.getAll (Headers.erase _ _) _ = []
              rw [Headers.getAll_erase_of_ne _ hne, Headers.getAll_erase_self]

/-! ## The whole head -/

/-- The header fields that a response is sent with. -/
def fields (r : Response) (ex : Exchange) : Headers :=
  if (ofResponse r ex).keepAlive then (frame r ex).2
  else (frame r ex).2.insert "Connection" "close"

theorem head_ofResponse (r : Response) (ex : Exchange) :
    (ofResponse r ex).head = headBytes r.status (fields r ex) := rfl

theorem keepAlive_ofResponse (r : Response) (ex : Exchange) :
    (ofResponse r ex).keepAlive = (ex.keepAlive && r.bodyFraming ex != .untilClose) := by
  rw [← framing_eq]
  rfl

/-- Announcing the end of the connection changes no other field. -/
theorem getAll_fields_of_ne (h : sameName "Connection" m = false) :
    (fields r ex).getAll m = (frame r ex).2.getAll m := by
  unfold fields
  split
  · rfl
  · exact Headers.getAll_insert_of_ne _ _ h

/-- The head declares the transfer coding truthfully. -/
theorem getAll_fields_codings (r : Response) (ex : Exchange) :
    (fields r ex).getAll "Transfer-Encoding" = (r.bodyFraming ex).codings := by
  rw [getAll_fields_of_ne (by decide), getAll_frame_codings, framing_eq]

/-- The fields of a body that is there as a whole, if the handler declares nothing. -/
theorem fields_withBody {s : Status} {h : Headers} (bs : Bytes) (ex : Exchange)
    (hs : s.allowsBody = true) (hlength : h.getAll "Content-Length" = [])
    (hcoding : h.getAll "Transfer-Encoding" = []) (hconnection : h.getAll "Connection" = []) :
    fields (.withBody s h bs) ex =
      ⟨h.entries ++ ("Content-Length", toString bs.length) ::
        if ex.keepAlive then [] else [("Connection", "close")]⟩ := by
  have hdeclared : (Response.withBody s h bs).headers =
      h.append "Content-Length" (toString bs.length) := by
    have hnone : h.contains "Content-Length" = false := by
      rw [Headers.contains, Headers.get?_eq_head?, hlength]
      rfl
    simp only [Response.withBody, hs, hnone, Bool.not_false, Bool.and_self, if_true]
    exact Headers.insert_of_getAll_eq_nil hlength _
  have hkept : (Response.withBody s h bs).keptLength? = some bs.length := by
    have hfirst : (h.append "Content-Length" (toString bs.length)).get? "Content-Length" =
        some (toString bs.length) := by
      rw [Headers.get?_eq_head?, Headers.getAll_append, hlength]
      rfl
    show (if (Response.withBody s h bs).headers.get? "Content-Length" = _ then _ else _) = _
    rw [hdeclared, if_pos hfirst]
  have hframe : frame (.withBody s h bs) ex =
      (.full, h.append "Content-Length" (toString bs.length)) := by
    rw [frame_of_kept hs hkept, hdeclared, Headers.erase_of_getAll_eq_nil]
    · rfl
    · rw [Headers.getAll_append, hcoding]
      rfl
  rw [fields, keepAlive_ofResponse, ← framing_eq, hframe]
  cases ex.keepAlive with
  | true => rfl
  | false =>
      have hnone : (h.append "Content-Length" (toString bs.length)).getAll "Connection" = [] := by
        rw [Headers.getAll_append, hconnection]
        rfl
      show (h.append "Content-Length" (toString bs.length)).insert "Connection" "close" = _
      rw [Headers.insert_of_getAll_eq_nil hnone]
      simp [Headers.append]

/-- **What a head says of its body.** Whatever fields the handler has set, the head of a
response declares the framing of its body once and truthfully, unless a length of the
handler stands in the way: one whose first value fits, and is not all that is said. -/
theorem declares_iff (r : Response) (ex : Exchange) (hs : r.status ≠ .switchingProtocols) :
    (ofResponse r ex).head = headBytes r.status (fields r ex) ∧
      (frame r ex).1 = r.bodyFraming ex ∧
      (Declares r (r.bodyFraming ex) (fields r ex) ↔ ¬ r.Misdeclares) := by
  have hlengths : (fields r ex).getAll "Content-Length" =
      (frame r ex).2.getAll "Content-Length" := getAll_fields_of_ne (by decide)
  have hcodings := getAll_fields_codings r ex
  rw [← framing_eq] at hcodings ⊢
  refine ⟨head_ofResponse r ex, rfl, ?_, ?_⟩
  · rintro hd ⟨ha, n, hk, hne⟩
    have hkept := hd.lengths
    rw [hlengths, getAll_frame_lengths_of_kept ha hk, lengths_of_kept ha hk] at hkept
    exact hne hkept
  · intro hm
    refine ⟨hlengths.trans ?_, hcodings⟩
    by_cases hkeep : ∃ n, r.status.allowsBody = true ∧ r.keptLength? = some n
    · obtain ⟨n, ha, hk⟩ := hkeep
      rw [getAll_frame_lengths_of_kept ha hk, lengths_of_kept ha hk]
      exact Classical.byContradiction fun hne => hm ⟨ha, n, hk, hne⟩
    · refine getAll_frame_lengths_of_not_kept hs fun ha => ?_
      exact Option.eq_none_iff_forall_ne_some.2 fun n hk => hkeep ⟨n, ha, hk⟩

/-- Two lengths, of which the first is right: both are sent. -/
theorem declares_iff_of_two_lengths :
    let r : Response :=
      { status := .ok, headers := ⟨[("Content-Length", "5"), ("content-length", "7")]⟩
        body := .full (utf8 "hello") }
    r.status ≠ .switchingProtocols ∧ r.Misdeclares ∧
      ¬ Declares r (r.bodyFraming .stay) (fields r .stay) ∧
      (ofResponse r .stay).output =
        utf8 "HTTP/1.1 200 OK\r\nContent-Length: 5\r\ncontent-length: 7\r\n\r\nhello" := by
  intro r
  have hs : r.status ≠ .switchingProtocols := by decide
  have hm : r.Misdeclares := ⟨rfl, 5, by decide +kernel, by decide +kernel⟩
  obtain ⟨_, _, hiff⟩ := declares_iff r .stay hs
  exact ⟨hs, hm, fun hd => hiff.1 hd hm, by decide +kernel⟩

end Writer

end Response

end WebServer
