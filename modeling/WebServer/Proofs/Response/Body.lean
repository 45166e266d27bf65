import WebServer.Proofs.Chunked.RoundTrip
import WebServer.Proofs.Response.Head

/-!
# WebServer.Proofs.Response.Body

What stands behind the head of a response. The pieces of a streamed body reach the writer
as they are sent, empty ones left out (`eq_of_conveys`), and each framing carries them in
its own way (`Carries`).

Main statement: a client that takes something of every write gets the head and exactly the
body; only a stream that ends before its declared length fails
(`writeResponse_carries_body`).
-/

namespace WebServer

/-! ## Pieces on their way -/

namespace BodyQueue

variable {q : BodyQueue} {sent taken : List Bytes}

/-- Pieces on their way through a queue: those that the producers send before they are
gone, and those that the writer takes until none comes any more. Sending and taking
alternate in any way that the room in the queue allows. -/
inductive Conveys : BodyQueue → List Bytes → List Bytes → Prop where
  | ends {q : BodyQueue} : q.receive = none → Conveys q [] []
  | sends {q q' : BodyQueue} {p : Bytes} {sent taken : List Bytes} :
      q.send p = (.ok, q') → Conveys q' sent taken → Conveys q (p :: sent) taken
  | takes {q q' : BodyQueue} {p : Bytes} {sent taken : List Bytes} :
      q.receive = some (p, q') → Conveys q' sent taken → Conveys q sent (p :: taken)

/-- A piece that is sent waits behind the others, unless it is empty. -/
theorem pieces_of_send {q' : BodyQueue} {p : Bytes} (h : q.send p = (.ok, q')) :
    q'.pieces = q.pieces ++ [p].filter fun p => !p.isEmpty := by
  unfold send at h
  cases hp : p.isEmpty with
  | true =>
      rw [if_pos hp] at h
      obtain rfl := (Prod.mk.inj h).2
      simp [hp]
  | false =>
      rw [hp, if_neg Bool.false_ne_true] at h
      split at h
      · simp at h
      · split at h
        · obtain rfl := (Prod.mk.inj h).2
          simp [hp]
        · simp at h

/-- What is taken is what is sent, without the empty pieces. -/
theorem eq_of_conveys (h : Conveys q sent taken) :
    taken = q.pieces ++ sent.filter fun p => !p.isEmpty := by
  induction h with
  | @ends q hq =>
      unfold receive at hq
      split at hq
      · next hnil => rw [hnil, List.filter_nil, List.append_nil]
      · simp at hq
  | sends hsend _ ih => rw [ih, pieces_of_send hsend, List.append_assoc, ← List.filter_append,
      List.singleton_append]
  | @takes q q' p sent taken hreceive _ ih =>
      unfold receive at hreceive
      split at hreceive
      · simp at hreceive
      · next hcons =>
          obtain ⟨rfl, rfl⟩ := Prod.mk.inj (Option.some.inj hreceive)
          rw [ih, hcons, List.cons_append]

/-- Whatever is sent can reach the writer. -/
theorem conveys_filter (sent : List Bytes) :
    Conveys {} sent (sent.filter fun p => !p.isEmpty) := by
  induction sent with
  | nil => exact .ends rfl
  | cons p sent ih =>
      cases hp : p.isEmpty with
      | true =>
          rw [List.filter_cons_of_neg (by simp [hp])]
          exact .sends (by rw [send, if_pos hp]) ih
      | false =>
          rw [List.filter_cons_of_pos (by simp [hp])]
          have hsend : ({} : BodyQueue).send p = (.ok, { pieces := [p] }) := by
            simp [send, hp, capacity]
          exact .sends hsend (.takes rfl ih)

end BodyQueue

/-! ## What a framing carries -/

namespace Response

variable {r : Response} {ex : Exchange} {sent ps : List Bytes} {held : Bool} {bs : Bytes}
  {n : Nat}

/-- How the end of a body is told on the wire: a client that wants the head only gets no
body. -/
def wireFraming (r : Response) (ex : Exchange) : Framing :=
  if ex.headOnly then .empty else r.bodyFraming ex

/-- If the body is a stream, its pieces are what arrives of those that were sent. -/
def IsFed (r : Response) (sent : List Bytes) : Prop :=
  ∀ ps held, r.body = .stream ps held → BodyQueue.Conveys {} sent ps

/-- The bytes behind a head carry the body of a response in a framing, the pieces sent
being these. -/
def Carries (r : Response) (sent : List Bytes) : Framing → Bytes → Prop
  | .empty, bs => bs = []
  | .full, bs => r.body = .full bs
  | .length n, bs => bs = sent.flatten.take n
  | .untilClose, bs => bs = sent.flatten
  -- more bytes than a word can count are never in memory
  | .chunked, bs => bs.length < wordLimit → ∀ limit, sent.flatten.length ≤ limit →
      Chunked.decode bs limit = .ok (sent.filter (fun p => !p.isEmpty), bs.length)

/-- The number of bytes of the body that a framing carries. -/
def carriedLength (r : Response) (sent : List Bytes) : Framing → Nat
  | .empty => 0
  | .full => (r.bytes?.getD []).length
  | .length n => min n sent.flatten.length
  | .untilClose | .chunked => sent.flatten.length

/-- A whole body is carried as it is, or not at all. -/
theorem wireFraming_of_full (ex : Exchange) (h : r.body = .full bs) :
    r.wireFraming ex = .empty ∨ r.wireFraming ex = .full := by
  simp only [wireFraming, bodyFraming, h]
  repeat' split
  all_goals simp

theorem wireFraming_of_stream (h : r.body = .stream ps held) : r.wireFraming ex ≠ .full := by
  unfold wireFraming bodyFraming
  rw [h]
  repeat' split
  all_goals simp_all

/-- The pieces of a stream are those that were sent, without the empty ones. -/
theorem IsFed.pieces_eq (hsent : r.IsFed sent) (h : r.body = .stream ps held) :
    ps = sent.filter (fun p => !p.isEmpty) ∧ ps.flatten = sent.flatten := by
  have hps : ps = sent.filter fun p => !p.isEmpty := BodyQueue.eq_of_conveys (hsent ps held h)
  exact ⟨hps, by rw [hps, List.flatten_filter_not_isEmpty]⟩

namespace Writer

theorem framing_ofResponse (r : Response) (ex : Exchange) :
    (ofResponse r ex).framing = r.wireFraming ex := by
  rw [wireFraming, ← framing_eq]
  rfl

/-- Cutting pieces cuts what they come to. -/
theorem flatten_cutPieces (n : Nat) (ps : List Bytes) :
    (cutPieces n ps).flatten = ps.flatten.take n := by
  fun_induction cutPieces n ps with
  | case1 => rw [List.take_zero, List.flatten_nil]
  | case2 => rw [List.flatten_nil, List.take_nil]
  | case3 n p ps ih => rw [List.flatten_cons, ih, List.flatten_cons, List.take_append]

/-- The bytes of a response behind its head. -/
def payload (w : Writer) : Bytes := (w.plan.writes.tail ++ w.plan.tail).flatten

theorem output_eq (w : Writer) : w.output = w.head ++ w.payload := by
  have hhead : w.plan.writes = w.head :: w.plan.writes.tail := by
    unfold plan
    split <;> rfl
  rw [output, payload, hhead, List.tail_cons, List.cons_append, List.flatten_cons]

/-- What is written behind the head is exactly the body. -/
theorem carries_payload (ex : Exchange) (hsent : r.IsFed sent) :
    r.Carries sent (r.wireFraming ex) (ofResponse r ex).payload := by
  unfold payload plan
  rw [framing_ofResponse, body_ofResponse]
  cases hb : r.body with
  | full bs =>
      rcases wireFraming_of_full ex hb with hf | hf
      · rw [hf]
        rfl
      · rw [hf, Carries, hb]
        simp
  | stream ps held =>
      obtain ⟨hps, hflat⟩ := hsent.pieces_eq hb
      cases hf : r.wireFraming ex with
      | empty => rfl
      | full => exact absurd hf (wireFraming_of_stream hb)
      | length n =>
          show (cutPieces n ps ++ []).flatten = _
          rw [List.append_nil, flatten_cutPieces, hflat]
      | untilClose =>
          show (ps ++ []).flatten = _
          rw [List.append_nil, hflat]
      | chunked =>
          have hbytes : (ps.map Chunked.encode ++ [Chunked.lastChunk]).flatten =
              ps.flatMap Chunked.encode ++ Chunked.lastChunk := by simp [List.flatMap]
          have hne : ∀ p ∈ ps, p ≠ [] := by
            intro p hp
            rw [hps] at hp
            simpa using (List.mem_filter.1 hp).2
          show r.Carries sent .chunked (ps.map Chunked.encode ++ [Chunked.lastChunk]).flatten
          rw [hbytes]
          intro hword limit hlimit
          rw [← hps]
          exact Chunked.decode_chunks hne (hflat ▸ hlimit) hword

/-! ## How writing ends -/

/-- A stream that ends before its declared length is too short. -/
theorem ending_of_lt (hsent : r.IsFed sent) (hf : r.wireFraming ex = .length n)
    (hlt : sent.flatten.length < n) :
    (ofResponse r ex).plan.ending = .short sent.flatten.length n := by
  cases hb : r.body with
  | full bs => rcases wireFraming_of_full ex hb with hf' | hf' <;> simp [hf'] at hf
  | stream ps held =>
      have hcut : (cutPieces n ps).flatten.length = sent.flatten.length := by
        rw [flatten_cutPieces, (hsent.pieces_eq hb).2, List.take_of_length_le (by omega)]
      unfold plan
      rw [framing_ofResponse, body_ofResponse, hf, hb]
      show (if _ < n then End.short _ n else .sent n) = _
      rw [hcut, if_pos hlt]

/-- Otherwise everything is sent, and counted. -/
theorem ending_of_le (hsent : r.IsFed sent)
    (hn : ∀ n, r.wireFraming ex = .length n → n ≤ sent.flatten.length) :
    (ofResponse r ex).plan.ending = .sent (r.carriedLength sent (r.wireFraming ex)) := by
  unfold plan
  rw [framing_ofResponse, body_ofResponse]
  cases hb : r.body with
  | full bs =>
      rcases wireFraming_of_full ex hb with hf | hf <;> rw [hf]
      · rfl
      · simp [carriedLength, bytes?, hb]
  | stream ps held =>
      have hflat : ps.flatten = sent.flatten := (hsent.pieces_eq hb).2
      cases hf : r.wireFraming ex with
      | empty => rfl
      | full => exact absurd hf (wireFraming_of_stream hb)
      | length n =>
          have hcut : (cutPieces n ps).flatten.length = n := by
            rw [flatten_cutPieces, hflat, List.length_take, Nat.min_eq_left (hn n hf)]
          show (if _ < n then End.short _ n else .sent n) = .sent (min n _)
          rw [hcut, if_neg (Nat.lt_irrefl n), Nat.min_eq_left (hn n hf)]
      | untilClose => exact congrArg End.sent (congrArg List.length hflat)
      | chunked => exact congrArg End.sent (congrArg List.length hflat)

end Writer

end Response

namespace Conn

open Response Response.Writer

variable {l : Link}

/-- **What is written behind a head is exactly the body.** To a client that takes some of
every write, the response to a request goes out as its head and its body, carried as the
framing tells. It fails only if the body has a declared length that the pieces sent do not
come to, and then all of them are written; otherwise the bytes of the body are counted. -/
theorem writeResponse_carries_body (r : Response) (ex : Exchange) (sent : List Bytes)
    (hsent : r.IsFed sent) (hopen : l.sink.IsOpen)
    (hends : ∀ ps, r.body = .stream ps true → l.ProducersEnd) :
    ∃ payload e l', writeResponse l (ofResponse r ex) (fun _ => false) = (e, l') ∧
      l'.sink.output = l.sink.output ++ (headBytes r.status (fields r ex) ++ payload) ∧
      r.Carries sent (r.wireFraming ex) payload ∧
      (∀ n, r.wireFraming ex = .length n → sent.flatten.length < n →
        e = .failed (shortMessage sent.flatten.length n) ∧ payload = sent.flatten) ∧
      ((∀ n, r.wireFraming ex = .length n → n ≤ sent.flatten.length) →
        e = .sent (r.carriedLength sent (r.wireFraming ex))) := by
  have hwaits : (ofResponse r ex).plan.waits = true → l.ProducersEnd := by
    intro hw
    obtain ⟨ps, hps⟩ := held_of_waits hw
    exact hends ps hps
  obtain ⟨l', hwrite, hout⟩ := writeResponse_of_producersEnd hopen hwaits
  have hcarries := carries_payload ex hsent
  refine ⟨_, _, l', hwrite, ?_, hcarries, ?_, ?_⟩
  · rw [hout, output_eq, head_ofResponse]
  · intro n hf hlt
    rw [completeEnd, ending_of_lt hsent hf hlt]
    refine ⟨rfl, ?_⟩
    rw [hf] at hcarries
    rw [hcarries, List.take_of_length_le (by omega)]
  · intro hn
    rw [completeEnd, ending_of_le hsent hn]

/-- A stream that is too short, in small writes: all of it arrives, and writing fails. -/
theorem writeResponse_carries_body_of_short :
    let sent : List Bytes := [utf8 "sho", [], utf8 "rt"]
    let r : Response := .streamed .ok ⟨[("Content-Length", "10")]⟩ sent true
    let l : Link :=
      { timeline := [(3, .dropSenders)], sink := { grants := [1, 7], cap := some 2 } }
    r.IsFed sent ∧ l.sink.IsOpen ∧ (∀ ps, r.body = .stream ps true → l.ProducersEnd) ∧
      ∃ l', writeResponse l (ofResponse r .stay) (fun _ => false) =
          (.failed "body stream ended after 5 of 10 bytes", l') ∧
        l'.sink.output = utf8 "HTTP/1.1 200 OK\r\nContent-Length: 10\r\n\r\nshort" := by
  intro sent r l
  have hsent : r.IsFed sent := by
    rintro ps held ⟨⟩
    exact BodyQueue.conveys_filter sent
  have hopen : l.sink.IsOpen := ⟨by decide, rfl, rfl⟩
  have hends : ∀ ps, r.body = .stream ps true → l.ProducersEnd := fun _ _ =>
    ⟨[], 3, [], rfl, by simp, by decide⟩
  obtain ⟨payload, e, l', hwrite, hout, _, hshort, _⟩ :=
    writeResponse_carries_body r .stay sent hsent hopen hends
  obtain ⟨rfl, rfl⟩ := hshort 10 (by decide +kernel) (by decide)
  have hmessage : shortMessage sent.flatten.length 10 =
      "body stream ended after 5 of 10 bytes" := by decide +kernel
  rw [hmessage] at hwrite
  exact ⟨hsent, hopen, hends, l', hwrite, hout.trans (by decide +kernel)⟩

end Conn

end WebServer
