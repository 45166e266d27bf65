import WebServer.Proofs.Request.Stage

/-!
# WebServer.Proofs.Request.Growth

Reading a request from a buffer that grows: head, framing, and the whole request.
What has been accepted stays accepted, byte for byte (`parse_append_of_ok`), and a
body may be taken up where the bytes ran out (`Framing.decode_resume`).
-/

namespace WebServer

namespace Request

variable {buf more : Bytes} {limits : Limits}

/-! ## The head -/

namespace Head

variable {h : Head} {n start : Nat}

/-- The search for the end of a head may go on behind bytes that hold none. -/
theorem findEnd_eq_of_scanned {scanned : Nat} (h : findEnd (buf.take scanned) 0 = none) :
    findEnd buf scanned = findEnd buf 0 := by
  rw [findEnd_zero] at h ⊢
  have hnone := (Bytes.indexOf?_eq_none_iff (by decide)).1 h
  refine Bytes.indexOf?_eq_map_drop (by decide) fun j hj hp => hnone j ?_
  -- a blank line at `j` would lie in the first `scanned` bytes
  rw [← List.take_append_drop scanned buf] at hp
  refine Bytes.prefix_drop_of_append ?_ hp
  simp only [blankLine, List.length_cons, List.length_nil, List.length_take]
  omega

/-- A head that has ended is read the same, whatever follows. -/
theorem parse_append_of_findEnd (h : findEnd buf 0 = some n) (more : Bytes) :
    parse (buf ++ more) limits = parse buf limits := by
  have h' : findEnd (buf ++ more) 0 = some n := by
    rw [findEnd_zero] at h ⊢
    exact Bytes.indexOf?_append_of_some h more
  rw [parse_of_findEnd_some h', parse_of_findEnd_some h]
  rw [findEnd_zero] at h
  have hle := Bytes.add_length_le_of_indexOf? h
  rw [List.take_append_of_le_length (by omega)]

theorem parse_append_of_ok (hp : parse buf limits = .ok (h, start)) (more : Bytes) :
    parse (buf ++ more) limits = .ok (h, start) := by
  rw [parse_append_of_findEnd (findEnd_of_parse hp).1, hp]

end Head

/-! ## The body -/

namespace Framing

variable {f f' : Framing} {d d' : Chunked.Decoder} {body : Bytes} {n : Nat}

/-- A complete body stays complete, and what follows it is not looked at. -/
theorem decode_append_of_some (h : (f.decode buf).1 = .ok (some (body, n))) (more : Bytes) :
    (f.decode (buf ++ more)).1 = .ok (some (body, n)) := by
  cases f with
  | length k =>
      obtain ⟨hk, rfl, rfl⟩ := decode_length_eq_some_iff.1 h
      refine decode_length_eq_some_iff.2 ⟨?_, ?_, rfl⟩
      · rw [List.length_append]
        omega
      · rw [List.take_append_of_le_length hk]
  | chunked d =>
      obtain ⟨d', hd, rfl⟩ := decode_chunked_eq_some_iff.1 h
      exact decode_chunked_eq_some_iff.2 ⟨d', Chunked.Decoder.decode_append_of_some hd more, rfl⟩

/-- The bytes that a complete body took are there. -/
theorem le_of_decode (h : (f.decode buf).1 = .ok (some (body, n))) : n ≤ buf.length := by
  cases f with
  | length k =>
      obtain ⟨hk, _, rfl⟩ := decode_length_eq_some_iff.1 h
      exact hk
  | chunked d =>
      obtain ⟨d', hd, _⟩ := decode_chunked_eq_some_iff.1 h
      have hpos := Chunked.Decoder.pos_le_of_decode hd
      rw [Chunked.Decoder.decode_eq_run hpos] at hd
      have hle := (Chunked.Decoder.le_of_run hd).2
      rw [List.length_drop] at hle
      omega

/-- A body that is not all there may be taken up where the bytes ran out: the
answer is then what it would have been from the start. -/
theorem decode_resume (h : f.decode buf = (.ok none, f')) (more : Bytes) :
    f'.decode (buf ++ more) = f.decode (buf ++ more) := by
  cases f with
  | length k =>
      simp only [decode] at h
      obtain rfl : f' = .length k := (congrArg Prod.snd h).symm
      rfl
  | chunked d =>
      obtain ⟨d', hd, rfl⟩ := decode_chunked_eq_none_iff.1 h
      simp only [decode]
      rw [Chunked.Decoder.decode_resume hd]

end Framing

/-! ## Whole requests -/

variable {head : Head} {start n : Nat} {framing : Framing} {r : Request}

/-- An accepted request takes some of the bytes that are there. -/
theorem le_of_parse (h : parse buf limits = .ok (r, n)) : 0 < n ∧ n ≤ buf.length := by
  obtain ⟨head, start, framing, body, k, hh, _, hd, _, rfl⟩ := stages_of_parse h
  obtain ⟨_, hpos, hle, _⟩ := Head.findEnd_of_parse hh
  have hk := Framing.le_of_decode hd
  rw [List.length_drop] at hk
  omega

/-- An accepted request stays the same, whatever follows it. -/
theorem parse_append_of_ok (h : parse buf limits = .ok (r, n)) (more : Bytes) :
    parse (buf ++ more) limits = .ok (r, n) := by
  obtain ⟨head, start, framing, body, k, hh, hf, hd, hw, rfl⟩ := stages_of_parse h
  have hle := (Head.findEnd_of_parse hh).2.2.1
  rw [parse_of_head (Head.parse_append_of_ok hh more) hf, List.drop_append_of_le_length hle,
    Framing.decode_append_of_some hd]
  simp only [hw, Except.map]

/-- Nothing shorter than an accepted request is accepted. -/
theorem parse_take_ne_ok (h : parse buf limits = .ok (r, n)) {k : Nat} (hk : k < n)
    (r' : Request) (n' : Nat) : parse (buf.take k) limits ≠ .ok (r', n') := by
  intro h'
  have hgrown := parse_append_of_ok h' (buf.drop k)
  rw [List.take_append_drop, h] at hgrown
  have hle := (le_of_parse h').2
  rw [List.length_take] at hle
  simp only [Except.ok.injEq, Prod.mk.injEq] at hgrown
  omega

end Request

end WebServer
