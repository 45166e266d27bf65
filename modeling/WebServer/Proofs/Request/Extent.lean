import WebServer.Proofs.Chunked.Extent
import WebServer.Proofs.Request.Growth

/-!
# WebServer.Proofs.Request.Extent

Where a request ends is decided by its own bytes. What is accepted in front of a
buffer is accepted without the bytes behind it (`parse_of_append`), so together with
`parse_append_of_ok` it is accepted whatever follows, and nothing shorter is: there
is one way to cut a stream of bytes into requests (`prefix_of_cuts`).

Main statement: `self_delimiting`.
-/

namespace WebServer

namespace Request

variable {buf more w stream : Bytes} {limits : Limits} {n : Nat}

/-! ## The stages -/

/-- A head that ends in the old bytes was read before. -/
theorem Head.parse_of_append {h : Head} {start : Nat}
    (hp : Head.parse (buf ++ more) limits = .ok (h, start)) (hle : start ≤ buf.length) :
    Head.parse buf limits = .ok (h, start) := by
  obtain ⟨hend, hfour, _, _⟩ := Head.findEnd_of_parse hp
  rw [Head.findEnd_zero] at hend
  have hbefore : Head.findEnd buf 0 = some (start - 4) := by
    rw [Head.findEnd_zero]
    refine Bytes.indexOf?_of_append hend ?_
    simp only [blankLine, List.length_cons, List.length_nil]
    omega
  rw [← Head.parse_append_of_findEnd hbefore more, hp]

/-- A body that ends in the old bytes was complete before. -/
theorem Framing.decode_of_append {f : Framing} {body : Bytes} {k : Nat}
    (h : (f.decode (buf ++ more)).1 = .ok (some (body, k))) (hle : k ≤ buf.length) :
    (f.decode buf).1 = .ok (some (body, k)) := by
  cases f with
  | length m =>
      obtain ⟨_, rfl, rfl⟩ := Framing.decode_length_eq_some_iff.1 h
      refine Framing.decode_length_eq_some_iff.2 ⟨hle, ?_, rfl⟩
      rw [List.take_append_of_le_length hle]
  | chunked d =>
      obtain ⟨d', hd, rfl⟩ := Framing.decode_chunked_eq_some_iff.1 h
      exact Framing.decode_chunked_eq_some_iff.2
        ⟨d', Chunked.Decoder.decode_of_append hd hle, rfl⟩

variable {r r' : Request}

/-- An accepted request needs none of the bytes behind it. -/
theorem parse_of_append (h : parse (buf ++ more) limits = .ok (r, n)) (hle : n ≤ buf.length) :
    parse buf limits = .ok (r, n) := by
  obtain ⟨head, start, framing, body, k, hh, hf, hd, hw, rfl⟩ := stages_of_parse h
  have hstart : start ≤ buf.length := by omega
  rw [List.drop_append_of_le_length hstart] at hd
  have hbody := Framing.decode_of_append hd (by rw [List.length_drop]; omega)
  rw [parse_of_head (Head.parse_of_append hh hstart) hf, hbody]
  simp only [hw, Except.map]

/-- The bytes an accepted request took are that request, whatever follows them. -/
theorem parse_take_append (h : parse buf limits = .ok (r, n)) (rest : Bytes) :
    parse (buf.take n ++ rest) limits = .ok (r, n) := by
  have hle := (le_of_parse h).2
  have hself : parse (buf.take n) limits = .ok (r, n) := by
    rw [← List.take_append_drop n buf] at h
    refine parse_of_append h ?_
    rw [List.length_take]
    omega
  exact parse_append_of_ok hself rest

/-! ## Streams of requests -/

/-- A byte string that is one request, and no byte more. -/
def IsRequest (limits : Limits) (w : Bytes) : Prop := ∃ r, parse w limits = .ok (r, w.length)

/-- Requests that a stream of bytes starts with, one behind the other. -/
structure Cuts (limits : Limits) (ws : List Bytes) (stream : Bytes) : Prop where
  requests : ∀ w ∈ ws, IsRequest limits w
  front : ws.flatten <+: stream

/-- The first request of a cut is what is read from the front of the stream. -/
theorem Cuts.parse_front {ws : List Bytes} (h : Cuts limits (w :: ws) stream) :
    ∃ r, parse stream limits = .ok (r, w.length) := by
  obtain ⟨r, hr⟩ := h.requests w List.mem_cons_self
  obtain ⟨rest, rfl⟩ := h.front
  refine ⟨r, ?_⟩
  rw [List.flatten_cons, List.append_assoc]
  exact parse_append_of_ok hr _

/-- Behind the first request the others are cut from the rest of the stream. -/
theorem Cuts.drop {ws : List Bytes} (h : Cuts limits (w :: ws) stream) :
    Cuts limits ws (stream.drop w.length) ∧ w = stream.take w.length := by
  obtain ⟨rest, rfl⟩ := h.front
  rw [List.flatten_cons, List.append_assoc, List.drop_left, List.take_left]
  exact ⟨⟨fun w' hw' => h.requests w' (List.mem_cons_of_mem _ hw'), List.prefix_append _ _⟩, rfl⟩

/-- There is one way to cut requests from a stream; it may only be followed further. -/
theorem prefix_of_cuts {ws ws' : List Bytes} (h : Cuts limits ws stream)
    (h' : Cuts limits ws' stream) (hle : ws.length ≤ ws'.length) : ws <+: ws' := by
  induction ws generalizing ws' stream with
  | nil => exact List.nil_prefix
  | cons w ws ih =>
      cases ws' with
      | nil => contradiction
      | cons w' ws' =>
          obtain ⟨r, hr⟩ := h.parse_front
          obtain ⟨r', hr'⟩ := h'.parse_front
          have hlength : w.length = w'.length := by
            rw [hr] at hr'
            simp only [Except.ok.injEq, Prod.mk.injEq] at hr'
            exact hr'.2
          obtain ⟨hrest, hw⟩ := h.drop
          obtain ⟨hrest', hw'⟩ := h'.drop
          rw [← hlength] at hrest' hw'
          obtain rfl : w = w' := hw.trans hw'.symm
          rw [List.cons_prefix_cons]
          exact ⟨rfl, ih hrest hrest' (Nat.le_of_succ_le_succ hle)⟩

theorem IsRequest.ne_nil (h : IsRequest limits w) : w ≠ [] := by
  rintro rfl
  obtain ⟨r, hr⟩ := h
  exact absurd (le_of_parse hr).1 (Nat.lt_irrefl 0)

/-- Further requests have further bytes. -/
theorem eq_of_prefix_of_flatten_eq {ws ws' : List Bytes} (h : ∀ w ∈ ws', IsRequest limits w)
    (hpre : ws <+: ws') (hflat : ws.flatten = ws'.flatten) : ws = ws' := by
  obtain ⟨more, rfl⟩ := hpre
  rw [List.flatten_append, List.self_eq_append_right, List.flatten_eq_nil_iff] at hflat
  cases more with
  | nil => rw [List.append_nil]
  | cons w more =>
      have hw := h w (List.mem_append_right _ List.mem_cons_self)
      exact absurd (hflat w List.mem_cons_self) hw.ne_nil

/-- Requests with the same bytes are the same requests. -/
theorem eq_of_flatten_eq {ws ws' : List Bytes} (h : Cuts limits ws stream)
    (h' : Cuts limits ws' stream) (hflat : ws.flatten = ws'.flatten) : ws = ws' := by
  rcases Nat.le_total ws.length ws'.length with hle | hle
  · exact eq_of_prefix_of_flatten_eq h'.requests (prefix_of_cuts h h' hle) hflat
  · exact (eq_of_prefix_of_flatten_eq h.requests (prefix_of_cuts h' h hle) hflat.symm).symm

/-- **Accepted requests delimit themselves.** An accepted request takes some of the
bytes that are there, and it is their first `n` bytes alone that make it one: with
anything behind them they are the same request, and nothing shorter is a request.
So two ways of cutting a stream into requests never differ, as far as both go. -/
theorem self_delimiting (h : parse buf limits = .ok (r, n)) :
    (0 < n ∧ n ≤ buf.length) ∧
      (∀ rest, parse (buf.take n ++ rest) limits = .ok (r, n)) ∧
      (∀ front, front <+: buf.take n → front ≠ buf.take n →
        ∀ r' n', parse front limits ≠ .ok (r', n')) ∧
      ∀ stream ws ws', Cuts limits ws stream → Cuts limits ws' stream →
        (ws.length ≤ ws'.length → ws <+: ws') ∧ (ws.flatten = ws'.flatten → ws = ws') := by
  have hle := (le_of_parse h).2
  refine ⟨le_of_parse h, parse_take_append h, ?_, ?_⟩
  · intro front hfront hne r' n'
    have hlength : (buf.take n).length = n := by rw [List.length_take, Nat.min_eq_left hle]
    have hlt : front.length < n := by
      refine Nat.lt_of_le_of_ne (hlength ▸ hfront.length_le) fun heq => ?_
      exact hne (hfront.eq_of_length (heq.trans hlength.symm))
    have htake : front = buf.take front.length := by
      have hpre := List.prefix_iff_eq_take.1 hfront
      rwa [List.take_take, Nat.min_eq_left (Nat.le_of_lt hlt)] at hpre
    rw [htake]
    exact parse_take_ne_ok h hlt r' n'
  · intro stream ws ws' hcut hcut'
    exact ⟨prefix_of_cuts hcut hcut', eq_of_flatten_eq hcut hcut'⟩

/-- A body in chunks, with an extension and a trailer, and another request behind it. -/
theorem self_delimiting_chunked :
    let buf := utf8 ("POST / HTTP/1.1\r\nTransfer-Encoding: chunked\r\n\r\n" ++
      "2;x=y\r\nhi\r\n0\r\nA: b\r\n\r\nGET /next HTTP/1.1\r\n\r\n")
    let r : Request :=
      { method := .post, path := "/", body := utf8 "hi"
        headers := ⟨[("Transfer-Encoding", "chunked")]⟩ }
    parse buf {} = .ok (r, 69) ∧ (∀ rest, parse (buf.take 69 ++ rest) {} = .ok (r, 69)) ∧
      ∀ r' n', parse (buf.take 68) {} ≠ .ok (r', n') := by
  intro buf r
  have hok : parse buf {} = .ok (r, 69) := by decide +kernel
  obtain ⟨_, hrest, hfront, _⟩ := self_delimiting hok
  exact ⟨hok, hrest, hfront _ (List.take_prefix_take_left (by decide)) (by decide +kernel)⟩

end Request

end WebServer
