import WebServer.Conn
import WebServer.Proofs.Request.Growth

/-!
# WebServer.Proofs.Request.Reader

Reading piece by piece is reading in one go. A reader remembers how far it has
searched for the end of a head, and a head whose body is still coming; none of
this may be seen from outside. `Sound` says so of a reader at rest: searching on
finds what a new search would find, and taking up the body answers what reading
it from its start would answer, whatever arrives next.

Main statement: on every reader that a connection can come to have, `next` answers
what `Request.parse` answers on the buffered bytes (`next_refines_parse`).
-/

namespace WebServer

namespace Request

namespace Reader

variable {r r' : Reader} {q : Request} {n : Nat} {e : ParseError}

/-- The readers of a connection: a new one, one that has taken in bytes, and one
that has been asked for a request without refusing it. -/
inductive Reachable (limits : Limits) : Reader → Prop where
  | fresh : Reachable limits { limits }
  | feed {r : Reader} {bs : Bytes} : Reachable limits r → bs ≠ [] → Reachable limits (r.feed bs)
  | next {r r' : Reader} {o : Option Request} :
      Reachable limits r → r.next = (.ok o, r') → Reachable limits r'

/-! ## What a reader remembers -/

/-- A pending head is the head of the buffered bytes, and its body may be taken up:
the answer is that of the framing that the head asks for. -/
def Pending.Sound (p : Pending) (buffer : Bytes) (limits : Limits) : Prop :=
  Head.parse buffer limits = .ok (p.head, p.start) ∧
    ∃ framing, Framing.ofHeaders p.head.headers limits = .ok framing ∧
      ∀ more, p.framing.decode (buffer.drop p.start ++ more) =
        framing.decode (buffer.drop p.start ++ more)

/-- What a reader remembers is true of its buffer. -/
structure Sound (r : Reader) : Prop where
  scanned_le : r.scanned ≤ r.buffer.length
  findEnd_scanned : r.pending = none → Head.findEnd (r.buffer.take r.scanned) 0 = none
  pending : ∀ p, r.pending = some p → Pending.Sound p r.buffer r.limits

/-- A pending head stays right when bytes arrive. -/
theorem Pending.Sound.append {p : Pending} {buffer : Bytes} {limits : Limits}
    (h : Pending.Sound p buffer limits) (bs : Bytes) : Pending.Sound p (buffer ++ bs) limits := by
  obtain ⟨hh, framing, hf, hd⟩ := h
  refine ⟨Head.parse_append_of_ok hh bs, framing, hf, fun more => ?_⟩
  have hle := (Head.findEnd_of_parse hh).2.2.1
  rw [List.drop_append_of_le_length hle, List.append_assoc]
  exact hd (bs ++ more)

theorem sound_fresh (limits : Limits) : Sound { limits } where
  scanned_le := Nat.le_refl 0
  findEnd_scanned _ := rfl
  pending _ hp := by simp at hp

/-- A reader without a head that has searched nothing. -/
theorem sound_restart (limits : Limits) (buffer : Bytes) :
    Sound { limits, buffer, scanned := 0, pending := none } where
  scanned_le := Nat.zero_le _
  findEnd_scanned _ := by rw [List.take_zero]; rfl
  pending _ hp := by simp at hp

theorem Sound.feed (hs : r.Sound) (bs : Bytes) : (r.feed bs).Sound where
  scanned_le := by
    have := hs.scanned_le
    simp only [Reader.feed, List.length_append]
    omega
  findEnd_scanned hp := by
    simp only [Reader.feed]
    rw [List.take_append_of_le_length hs.scanned_le]
    exact hs.findEnd_scanned hp
  pending p hp := (hs.pending p hp).append bs

/-! ## One call -/

/-- An answer agrees with reading the buffer in one go: the same request, which
leaves the buffer with the bytes it took; nothing yet, and the buffer as it was; or
the same error. -/
def Agrees (r : Reader) (answer : Except ParseError (Option Request) × Reader) : Prop :=
  match parse r.buffer r.limits with
  | .ok (q, n) =>
      answer = (.ok (some q), { r with buffer := r.buffer.drop n, scanned := 0, pending := none })
  | .error .incomplete =>
      answer.1 = .ok none ∧ answer.2.buffer = r.buffer ∧ answer.2.limits = r.limits ∧
        answer.2.Sound
  | .error e => answer.1 = .error e

theorem agrees_of_error {answer : Except ParseError (Option Request) × Reader}
    (h : parse r.buffer r.limits = .error e) (he : e ≠ .incomplete)
    (ha : answer.1 = .error e) : r.Agrees answer := by
  unfold Agrees
  rw [h]
  split
  · contradiction
  · next hi => exact absurd (by simpa using hi) he
  · next hi =>
      rw [ha]
      simpa using hi

/-- Taking up a pending body answers what reading the buffer in one go answers. -/
theorem agrees_resume {p : Pending} (hp : Pending.Sound p r.buffer r.limits)
    (hs : r.scanned ≤ r.buffer.length) : r.Agrees (r.resume p) := by
  obtain ⟨hh, framing, hf, hd⟩ := hp
  have hnow : p.framing.decode (r.buffer.drop p.start) =
      framing.decode (r.buffer.drop p.start) := by simpa using hd []
  have hparse := parse_of_head hh hf
  unfold resume
  rw [hnow]
  cases hdec : framing.decode (r.buffer.drop p.start) with
  | mk result framing' =>
      rw [hdec] at hparse
      cases result with
      | error e =>
          refine agrees_of_error hparse ?_ rfl
          rintro rfl
          have := Framing.error_of_decode (congrArg Prod.fst hdec)
          simp at this
      | ok o =>
          cases o with
          | none =>
              unfold Agrees
              rw [hparse]
              refine ⟨rfl, rfl, rfl, hs, fun h => by simp at h, fun p' hp' => ?_⟩
              -- the new framing goes on where the old one stopped
              obtain rfl : { p with framing := framing' } = p' := by simpa using hp'
              exact ⟨hh, framing, hf, fun more => Framing.decode_resume hdec more⟩
          | some taken =>
              obtain ⟨body, k⟩ := taken
              dsimp only at hparse ⊢
              cases hw : p.head.withBody body with
              | error e =>
                  rw [hw] at hparse
                  refine agrees_of_error hparse ?_ rfl
                  rintro rfl
                  obtain ⟨_, hm⟩ := Head.error_of_withBody hw
                  simp at hm
              | ok request =>
                  rw [hw] at hparse
                  unfold Agrees
                  rw [hparse]
                  rfl

/-- Waiting for the rest of a head is right, and all of the buffer has been searched. -/
theorem agrees_of_waiting (hp : r.pending = none) (hend : Head.findEnd r.buffer 0 = none)
    (hle : r.buffer.length ≤ r.limits.maxHeader) :
    r.Agrees (.ok none, { r with scanned := r.buffer.length }) := by
  unfold Agrees
  rw [parse_eq_incomplete_iff.2 (.inl ⟨hend, hle⟩)]
  refine ⟨rfl, rfl, rfl, Nat.le_refl _, fun _ => ?_, fun p h => ?_⟩
  · rw [List.take_length]
    exact hend
  · simp [hp] at h

/-- A head that is neither waited for nor refused is followed by its body. -/
theorem agrees_of_head (hs : r.scanned ≤ r.buffer.length)
    (hready : Head.findEnd r.buffer 0 = none → r.limits.maxHeader < r.buffer.length) :
    r.Agrees
      (match Head.parse r.buffer r.limits with
      | .error e => (.error e, r)
      | .ok (head, start) =>
          match Framing.ofHeaders head.headers r.limits with
          | .error e => (.error e, r)
          | .ok framing => r.resume { head, start, framing }) := by
  cases hh : Head.parse r.buffer r.limits with
  | error e =>
      refine agrees_of_error (by simp only [parse, hh]) ?_ rfl
      rintro rfl
      -- an incomplete head would have been waited for
      have hinc : parse r.buffer r.limits = .error .incomplete := by
        simp only [parse, hh]
      obtain ⟨hn, hle⟩ | ⟨_, _, _, hok, _⟩ := parse_eq_incomplete_iff.1 hinc
      · exact absurd (hready hn) (Nat.not_lt.2 hle)
      · simp [hh] at hok
  | ok found =>
      obtain ⟨head, start⟩ := found
      dsimp only
      cases hf : Framing.ofHeaders head.headers r.limits with
      | error e =>
          refine agrees_of_error (by simp only [parse, hh, hf]) ?_ rfl
          rintro rfl
          have := Framing.error_of_ofHeaders hf
          simp at this
      | ok framing => exact agrees_resume ⟨hh, framing, hf, fun _ => rfl⟩ hs

/-- A call answers what reading the buffer in one go answers. -/
theorem agrees_next (hs : r.Sound) : r.Agrees r.next := by
  unfold next
  cases hp : r.pending with
  | some p => exact agrees_resume (hs.pending p hp) hs.scanned_le
  | none =>
      dsimp only
      rw [Head.findEnd_eq_of_scanned (hs.findEnd_scanned hp)]
      by_cases hempty : r.buffer.isEmpty
      · have hparse : parse r.buffer r.limits = .error .incomplete := by
          rw [List.isEmpty_iff.1 hempty]
          exact parse_eq_incomplete_iff.2 (.inl ⟨rfl, Nat.zero_le _⟩)
        rw [if_pos hempty]
        unfold Agrees
        rw [hparse]
        exact ⟨rfl, rfl, rfl, hs⟩
      · rw [if_neg hempty]
        by_cases hwait : ((Head.findEnd r.buffer 0).isNone &&
            decide (r.buffer.length ≤ r.limits.maxHeader)) = true
        · rw [if_pos hwait]
          rw [Bool.and_eq_true, Option.isNone_iff_eq_none, decide_eq_true_eq] at hwait
          have hagrees := agrees_of_waiting hp hwait.1 hwait.2
          rwa [hp] at hagrees
        · rw [if_neg hwait]
          refine agrees_of_head hs.scanned_le fun hn => ?_
          simpa [hn] using hwait

/-! ## Every call -/

theorem limits_of_agrees {answer : Except ParseError (Option Request) × Reader}
    (h : r.Agrees answer) {o : Option Request} (ha : answer.1 = .ok o) :
    answer.2.limits = r.limits ∧ answer.2.Sound := by
  unfold Agrees at h
  split at h
  · subst h
    exact ⟨rfl, sound_restart _ _⟩
  · exact h.2.2
  · simp [ha] at h

/-- Whatever a connection has done with its reader, the reader is sound. -/
theorem sound_of_reachable {limits : Limits} (h : Reachable limits r) :
    r.Sound ∧ r.limits = limits := by
  induction h with
  | fresh => exact ⟨sound_fresh limits, rfl⟩
  | feed _ _ ih => exact ⟨ih.1.feed _, ih.2⟩
  | @next r r' o _ hn ih =>
      obtain ⟨hl, hs⟩ := limits_of_agrees (agrees_next ih.1) (congrArg Prod.fst hn)
      rw [hn] at hl hs
      exact ⟨hs, hl.trans ih.2⟩

/-- A call that asks for more bytes leaves the buffer as it is. -/
theorem sound_of_next_none (hs : r.Sound) (hn : r.next = (.ok none, r')) :
    r'.buffer = r.buffer ∧ r'.Sound := by
  have ha := agrees_next hs
  rw [hn] at ha
  refine ⟨?_, (limits_of_agrees ha rfl).2⟩
  unfold Agrees at ha
  split at ha
  · simp at ha
  · exact ha.2.1
  · simp at ha

/-! ## Answers and buffered bytes -/

theorem next_of_parse_ok (hs : r.Sound) (hp : parse r.buffer r.limits = .ok (q, n)) :
    r.next =
      (.ok (some q), { r with buffer := r.buffer.drop n, scanned := 0, pending := none }) := by
  have ha := agrees_next hs
  unfold Agrees at ha
  rw [hp] at ha
  exact ha

theorem next_of_parse_incomplete (hs : r.Sound)
    (hp : parse r.buffer r.limits = .error .incomplete) :
    ∃ r', r.next = (.ok none, r') ∧ r'.buffer = r.buffer ∧ r'.limits = r.limits ∧ r'.Sound := by
  have ha := agrees_next hs
  unfold Agrees at ha
  rw [hp] at ha
  obtain ⟨hnone, hbuf, hlim, hsound⟩ := ha
  exact ⟨r.next.2, by rw [← hnone], hbuf, hlim, hsound⟩

theorem next_of_parse_error (hs : r.Sound) (hp : parse r.buffer r.limits = .error e)
    (he : e ≠ .incomplete) : r.next.1 = .error e := by
  have ha := agrees_next hs
  unfold Agrees at ha
  rw [hp] at ha
  split at ha
  · contradiction
  · next hi => exact absurd (by simpa using hi) he
  · next hi =>
      rw [ha]
      simpa using hi.symm

theorem parse_of_next_request (hs : r.Sound) (hn : r.next.1 = .ok (some q)) :
    ∃ n, parse r.buffer r.limits = .ok (q, n) := by
  cases hp : parse r.buffer r.limits with
  | ok taken =>
      obtain ⟨q', n⟩ := taken
      rw [next_of_parse_ok hs hp] at hn
      exact ⟨n, by simpa using hn⟩
  | error e =>
      by_cases he : e = .incomplete
      · subst he
        obtain ⟨r', hnext, _⟩ := next_of_parse_incomplete hs hp
        simp [hnext] at hn
      · simp [next_of_parse_error hs hp he] at hn

theorem parse_of_next_none (hs : r.Sound) (hn : r.next.1 = .ok none) :
    parse r.buffer r.limits = .error .incomplete := by
  cases hp : parse r.buffer r.limits with
  | ok taken => simp [next_of_parse_ok hs hp] at hn
  | error e =>
      by_cases he : e = .incomplete
      · rw [he]
      · simp [next_of_parse_error hs hp he] at hn

theorem parse_of_next_error (hs : r.Sound) (hn : r.next.1 = .error e) :
    parse r.buffer r.limits = .error e ∧ e ≠ .incomplete := by
  cases hp : parse r.buffer r.limits with
  | ok taken => simp [next_of_parse_ok hs hp] at hn
  | error e' =>
      by_cases he : e' = .incomplete
      · subst he
        obtain ⟨r', hnext, _⟩ := next_of_parse_incomplete hs hp
        simp [hnext] at hn
      · rw [next_of_parse_error hs hp he] at hn
        obtain rfl : e' = e := by simpa using hn
        exact ⟨rfl, he⟩

/-! ## The end of the stream -/

/-- With a head pending there are bytes in the buffer. -/
theorem hasBuffered_or_pending (hs : r.Sound) :
    (r.hasBuffered || r.pending.isSome) = decide (r.buffer ≠ []) := by
  cases hb : r.buffer with
  | cons b bs => simp [hasBuffered, hb]
  | nil =>
      cases hp : r.pending with
      | none => simp [hasBuffered, hb]
      | some p =>
          obtain ⟨_, hpos, hle, _⟩ := Head.findEnd_of_parse (hs.pending p hp).1
          rw [hb, List.length_nil] at hle
          omega

end Reader

end Request

namespace Conn

open Request Request.Reader

variable {c : Conn} {interrupt : Link → Bool} {reader : Reader} {link : Link}

theorem readRequest_of_request {q : Request} (hn : c.reader.next = (.ok (some q), reader)) :
    c.readRequest interrupt = (.request q, { c with reader }) := by
  rw [readRequest, hn]

theorem readRequest_of_bytes {bs : Bytes} (hn : c.reader.next = (.ok none, reader))
    (hr : c.link.receive (some (c.link.now + c.patience)) interrupt =
      (.arrived (.bytes bs), link)) :
    c.readRequest interrupt =
      readRequest { c with reader := reader.feed bs, link } interrupt := by
  rw [readRequest, hn]
  dsimp only
  split <;> simp_all

theorem readRequest_of_arrived_eof (hn : c.reader.next = (.ok none, reader))
    (hr : c.link.receive (some (c.link.now + c.patience)) interrupt = (.arrived .eof, link)) :
    c.readRequest interrupt =
      if reader.hasBuffered || reader.pending.isSome then
        (.failed .unexpectedEof, { c with reader, link })
      else (.clean, { c with reader, link }) := by
  rw [readRequest, hn]
  dsimp only
  split <;> simp_all

/-- What the end of the stream means is decided by the buffer alone. -/
theorem readRequest_of_eof (hs : c.reader.Sound) (hn : c.reader.next = (.ok none, reader))
    (hr : c.link.receive (some (c.link.now + c.patience)) interrupt = (.arrived .eof, link)) :
    c.readRequest interrupt =
      (if c.reader.buffer = [] then .clean else .failed .unexpectedEof,
        { c with reader, link }) := by
  obtain ⟨hbuf, hsound⟩ := Reader.sound_of_next_none hs hn
  rw [readRequest_of_arrived_eof hn hr, Reader.hasBuffered_or_pending hsound, hbuf]
  by_cases hb : c.reader.buffer = [] <;> simp [hb]

/-- However often the client is waited for, reading ends cleanly only with an empty
buffer, and the client is told to have left too early only with bytes in it. -/
theorem buffer_of_readRequest (hs : c.reader.Sound) :
    ((c.readRequest interrupt).1 = .clean → (c.readRequest interrupt).2.reader.buffer = []) ∧
      ((c.readRequest interrupt).1 = .failed .unexpectedEof →
        (c.readRequest interrupt).2.reader.buffer ≠ []) := by
  fun_induction readRequest c interrupt with
  | case1 c e reader hn => simp
  | case2 c q reader hn => simp
  | case3 c reader hn bs link hr ih =>
      exact ih ((Reader.sound_of_next_none hs hn).2.feed bs)
  | case4 c reader hn link hr c' hleft =>
      rw [Reader.hasBuffered_or_pending (Reader.sound_of_next_none hs hn).2,
        decide_eq_true_eq] at hleft
      exact ⟨by simp, fun _ => hleft⟩
  | case5 c reader hn link hr c' hleft =>
      rw [Reader.hasBuffered_or_pending (Reader.sound_of_next_none hs hn).2,
        decide_eq_true_eq, Classical.not_not] at hleft
      exact ⟨fun _ => hleft, by simp⟩
  | case6 => simp
  | case7 => simp
  | case8 => simp
  | case9 => simp

/-- **Reading piece by piece is reading in one go.** Whatever pieces have arrived
and whatever has been taken before, a call answers a request exactly when the
buffered bytes begin with one, and removes just its bytes; it answers nothing
exactly when they are incomplete, and leaves them; else it refuses them with the
same error. At the end of the stream an empty buffer is a clean end, and anything
else is not. -/
theorem next_refines_parse {limits : Limits} {r : Reader} (h : r.Reachable limits) :
    (∀ q, r.next.1 = .ok (some q) ↔ ∃ n, parse r.buffer limits = .ok (q, n)) ∧
      (∀ q n, parse r.buffer limits = .ok (q, n) →
        n ≤ r.buffer.length ∧ r.next.2.buffer = r.buffer.drop n) ∧
      (r.next.1 = .ok none ↔ parse r.buffer limits = .error .incomplete) ∧
      (r.next.1 = .ok none → r.next.2.buffer = r.buffer) ∧
      (∀ e, r.next.1 = .error e ↔ parse r.buffer limits = .error e ∧ e ≠ .incomplete) ∧
      ∀ (c : Conn) (interrupt : Link → Bool), c.reader = r →
        (∀ link, r.next.1 = .ok none →
          c.link.receive (some (c.link.now + c.patience)) interrupt = (.arrived .eof, link) →
          (c.readRequest interrupt).1 =
            if r.buffer = [] then .clean else .failed .unexpectedEof) ∧
        ((c.readRequest interrupt).1 = .clean →
          (c.readRequest interrupt).2.reader.buffer = []) ∧
        ((c.readRequest interrupt).1 = .failed .unexpectedEof →
          (c.readRequest interrupt).2.reader.buffer ≠ []) := by
  obtain ⟨hs, rfl⟩ := Reader.sound_of_reachable h
  refine ⟨fun q => ⟨fun hn => ?_, ?_⟩, fun q n hp => ?_, ⟨fun hn => ?_, fun hp => ?_⟩,
    fun hn => ?_, fun e => ⟨fun hn => ?_, ?_⟩, ?_⟩
  · exact parse_of_next_request hs hn
  · rintro ⟨n, hp⟩
    rw [next_of_parse_ok hs hp]
  · exact ⟨(le_of_parse hp).2, by rw [next_of_parse_ok hs hp]⟩
  · exact parse_of_next_none hs hn
  · obtain ⟨r', hnext, _⟩ := next_of_parse_incomplete hs hp
    rw [hnext]
  · obtain ⟨r', hnext, hbuf, _⟩ := next_of_parse_incomplete hs (parse_of_next_none hs hn)
    rw [hnext, hbuf]
  · exact parse_of_next_error hs hn
  · rintro ⟨hp, he⟩
    exact next_of_parse_error hs hp he
  · intro c interrupt hc
    subst hc
    refine ⟨fun link hn hr => ?_, buffer_of_readRequest hs⟩
    have hnext : c.reader.next = (.ok none, c.reader.next.2) := by rw [← hn]
    rw [readRequest_of_eof hs hnext hr]

/-- A chunked body in pieces that end inside the blank line, inside a size line,
inside the trailer and inside the next request. -/
theorem next_refines_parse_in_pieces :
    let r₁ := Reader.feed { limits := {} }
      (utf8 "POST / HTTP/1.1\r\nTransfer-Encoding: chunked\r\n\r")
    let r₂ := r₁.next.2.feed (utf8 "\n5;x\r")
    let r₃ := r₂.next.2.feed (utf8 "\nhello\r\n0\r\nA: 1\r\n\r")
    let r₄ := r₃.next.2.feed (utf8 "\nGET /")
    r₄.Reachable {} ∧ ∃ q n, parse r₄.buffer {} = .ok (q, n) ∧ q.body = utf8 "hello" ∧
      r₄.next.1 = .ok (some q) ∧ r₄.next.2.buffer = utf8 "GET /" := by
  intro r₁ r₂ r₃ r₄
  have h₁ : r₁.Reachable {} := .feed .fresh (by decide +kernel)
  have h₂ : r₂.Reachable {} :=
    .feed (.next (o := none) h₁ (Prod.ext (by decide +kernel) rfl)) (by decide +kernel)
  have h₃ : r₃.Reachable {} :=
    .feed (.next (o := none) h₂ (Prod.ext (by decide +kernel) rfl)) (by decide +kernel)
  have h₄ : r₄.Reachable {} :=
    .feed (.next (o := none) h₃ (Prod.ext (by decide +kernel) rfl)) (by decide +kernel)
  obtain ⟨hrequest, hbuffer, -⟩ := next_refines_parse h₄
  have hbody : (parse r₄.buffer {}).map (fun t => (t.1.body, r₄.buffer.drop t.2)) =
      .ok (utf8 "hello", utf8 "GET /") := by decide +kernel
  cases hp : parse r₄.buffer {} with
  | error e => simp [hp, Except.map] at hbody
  | ok taken =>
      obtain ⟨q, n⟩ := taken
      simp only [hp, Except.map, Except.ok.injEq, Prod.mk.injEq] at hbody
      refine ⟨h₄, q, n, rfl, hbody.1, (hrequest q).2 ⟨n, hp⟩, ?_⟩
      rw [(hbuffer q n hp).2, hbody.2]

end Conn

end WebServer
