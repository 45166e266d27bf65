import WebServer.Proofs.Chunked.Backlog
import WebServer.Proofs.Chunked.RoundTrip
import WebServer.Proofs.Request.Extent
import WebServer.Proofs.Request.HeadSize
import WebServer.Proofs.Request.Rejection

/-!
# WebServer.Proofs.Request.Backlog

How many bytes of a request can be held back before it is complete. The head, a declared length
and the data in chunks have limits, and so much may be waited for (`backlog`). Lines of the
trailer behind the last chunk are limited one by one only, and never in number.

Main statement: what an unfinished request is, and when its length is bounded
(`incomplete_iff`).
-/

namespace WebServer

namespace Request

open Chunked (IsTrailerLine IsOpenLine endLines maxLine chunksLength)

variable {buf front part : Bytes} {lines : List Bytes} {limits : Limits}

/-- The most bytes of an unfinished request, the lines of its trailer aside: the head with its
blank line, and the data in the smallest chunks with the size line of the last one. -/
def backlog (limits : Limits) : Nat :=
  limits.maxHeader + blankLine.length + (chunksLength limits.maxBody + maxLine + 2)

/-- A request that has come to the end of its chunks, and of which nothing more has arrived. -/
def AtTrailer (limits : Limits) (front : Bytes) : Prop :=
  ∃ head start d, Head.parse front limits = .ok (head, start) ∧
    Framing.ofHeaders head.headers limits = .ok (.chunked d) ∧ d.EndsChunks (front.drop start)

/-! ## What is held back -/

/-- A body in chunks is incomplete when decoding it from the start is. -/
theorem Framing.decode_chunked_eq_none_iff_run {limit : Nat} {body : Bytes} :
    ((Framing.chunked { limit }).decode body).1 = .ok none ↔
      (({ limit } : Chunked.Decoder).run body).1 = .ok none := by
  have hrun : ({ limit } : Chunked.Decoder).decode body = ({ limit } : Chunked.Decoder).run body :=
    Chunked.Decoder.decode_eq_run (Nat.zero_le _)
  rw [decode, hrun]
  rcases ({ limit } : Chunked.Decoder).run body with ⟨(_ | _ | k), d'⟩ <;> simp

/-- An unfinished request is not longer than the backlog, or has come to the lines of its
trailer. -/
theorem of_parse_incomplete (h : parse buf limits = .error .incomplete) :
    buf.length ≤ backlog limits ∨
      ∃ front lines part, buf = front ++ (endLines lines ++ part) ∧ AtTrailer limits front ∧
        front.length ≤ backlog limits ∧ (∀ line ∈ lines, IsTrailerLine line) ∧ IsOpenLine part := by
  rcases parse_eq_incomplete_iff.1 h with ⟨_, hle⟩ | ⟨head, start, framing, hhead, hframing, hd⟩
  · left
    unfold backlog
    omega
  · obtain ⟨_, hfour, hstart, hmax⟩ := Head.findEnd_of_parse hhead
    have hblank : blankLine.length = 4 := rfl
    cases framing with
    | length k =>
        have hk := (Framing.of_ofHeaders_length hframing).2.2
        have hshort : (buf.drop start).length < k := by
          simp only [Framing.decode] at hd
          split at hd
          · next hlt =>
              rw [List.length_take] at hlt
              omega
          · simp at hd
        rw [List.length_drop] at hshort
        have hdata := Chunked.le_chunksLength limits.maxBody
        left
        unfold backlog
        omega
    | chunked d =>
        obtain ⟨-, -, rfl⟩ := Framing.of_ofHeaders_chunked hframing
        have hrun := Framing.decode_chunked_eq_none_iff_run.1 hd
        rcases (Chunked.Decoder.inChunks_start limits.maxBody).of_run_none hrun with
          hle | ⟨front, lines, part, hsplit, hfront, hle, hlines, hpart⟩
        · left
          rw [List.length_drop] at hle
          unfold backlog
          simp only at hle
          omega
        · refine .inr ⟨buf.take start ++ front, lines, part, ?_, ?_, ?_, hlines, hpart⟩
          · rw [List.append_assoc, ← hsplit, List.take_append_drop]
          · have htake : (buf.take start).length = start := by
              rw [List.length_take]
              omega
            rw [← List.take_append_drop start buf] at hhead
            have htaken := Head.parse_of_append hhead (by omega)
            refine ⟨head, start, _, Head.parse_append_of_ok htaken front, hframing, ?_⟩
            rw [List.drop_append_of_le_length (by omega), List.drop_of_length_le (by omega)]
            exact hfront
          · rw [List.length_append, List.length_take]
            unfold backlog
            simp only at hle
            omega

/-- A request that has come to its trailer is unfinished, whatever lines follow. -/
theorem parse_of_atTrailer (hfront : AtTrailer limits front)
    (hlines : ∀ line ∈ lines, IsTrailerLine line) (hpart : IsOpenLine part) :
    parse (front ++ (endLines lines ++ part)) limits = .error .incomplete := by
  obtain ⟨head, start, d, hhead, hframing, hend⟩ := hfront
  have hle := (Head.findEnd_of_parse hhead).2.2.1
  obtain ⟨-, -, rfl⟩ := Framing.of_ofHeaders_chunked hframing
  refine parse_eq_incomplete_iff.2 (.inr ⟨head, start, _, Head.parse_append_of_ok hhead _,
    hframing, ?_⟩)
  rw [List.drop_append_of_le_length hle, Framing.decode_chunked_eq_none_iff_run]
  exact Chunked.Decoder.run_trailer hend hlines hpart

/-! ## When the backlog is bounded -/

/-- The shortest head that announces a body in chunks, and the size line of the last chunk. -/
def shortestFront : Bytes :=
  utf8 "GET / HTTP/1.\r\nTransfer-Encoding:chunked\r\n\r\n0\r\n"

/-- That head as it is read. -/
def shortestHead : Head :=
  { method := .get, path := "/", query := none, version := "HTTP/1."
    headers := ⟨[("Transfer-Encoding", "chunked")]⟩ }

theorem atTrailer_shortestFront (h : 40 ≤ limits.maxHeader) : AtTrailer limits shortestFront := by
  have hend : Head.findEnd shortestFront 0 = some 40 := by decide +kernel
  have hhead : Head.parse shortestFront limits = .ok (shortestHead, 44) := by
    rw [Head.parse_of_findEnd_some hend, if_neg (by omega)]
    decide +kernel
  have hframing : Framing.ofHeaders shortestHead.headers limits =
      .ok (.chunked { limit := limits.maxBody }) := by
    rw [Framing.ofHeaders, if_pos (by decide +kernel), if_pos (by decide +kernel)]
  have hline : shortestFront.drop 44 = [48] ++ (crlf ++ []) := by decide +kernel
  refine ⟨shortestHead, 44, _, hhead, hframing, ?_⟩
  rw [hline]
  exact ⟨_, _, _, .refl _ _, rfl, Chunked.Decoder.step_zeroLine rfl Chunked.isSizeLine_zero [], rfl⟩

/-- To come to a trailer takes a head that announces chunks. -/
theorem le_of_atTrailer (h : AtTrailer limits front) : 40 ≤ limits.maxHeader := by
  obtain ⟨head, start, d, hhead, hframing, _⟩ := h
  exact Head.le_of_parse hhead (Framing.of_ofHeaders_chunked hframing).2.1

theorem isTrailerLine_singleton : IsTrailerLine (utf8 "a") :=
  ⟨by decide, by decide, by decide⟩

/-- **What an unfinished request is.** A buffer that is incomplete is not longer than the backlog
that the limits allow, or it consists of such a beginning, which has come to the trailer, of
whole lines, and of an open line; and every buffer of that form is incomplete, however many lines
there are. So the length of incomplete buffers is bounded only if the limit for the head leaves
no room to announce chunks. -/
theorem incomplete_iff (limits : Limits) :
    (∀ buf, parse buf limits = .error .incomplete → buf.length ≤ backlog limits ∨
      ∃ front lines part, buf = front ++ (endLines lines ++ part) ∧ AtTrailer limits front ∧
        front.length ≤ backlog limits ∧ (∀ line ∈ lines, IsTrailerLine line) ∧ IsOpenLine part) ∧
    (∀ front lines part, AtTrailer limits front → (∀ line ∈ lines, IsTrailerLine line) →
      IsOpenLine part → parse (front ++ (endLines lines ++ part)) limits = .error .incomplete) ∧
    ((∃ bound, ∀ buf, parse buf limits = .error .incomplete → buf.length ≤ bound) ↔
      limits.maxHeader < 40) := by
  refine ⟨fun _ => of_parse_incomplete, fun _ _ _ => parse_of_atTrailer, ?_⟩
  constructor
  · rintro ⟨bound, hbound⟩
    refine Nat.lt_of_not_le fun hroom => ?_
    have hlines : ∀ line ∈ List.replicate bound (utf8 "a"), IsTrailerLine line := by
      intro line hline
      rw [List.eq_of_mem_replicate hline]
      exact isTrailerLine_singleton
    have hopen : IsOpenLine [] := rfl
    have hle := hbound _ (parse_of_atTrailer (atTrailer_shortestFront hroom) hlines hopen)
    have hfront : shortestFront.length = 47 := by decide +kernel
    have hline : (utf8 "a").length = 1 := by decide
    rw [List.append_nil, List.length_append, Chunked.length_endLines_replicate, hfront, hline] at hle
    omega
  · intro hshort
    refine ⟨backlog limits, fun buf h => ?_⟩
    rcases of_parse_incomplete h with hle | ⟨front, _, _, _, hfront, _⟩
    · exact hle
    · have := le_of_atTrailer hfront
      omega

/-- The limits of a server that sets none leave the length unbounded. -/
theorem incomplete_iff_of_default :
    ¬ ∃ bound, ∀ buf, parse buf {} = .error .incomplete → buf.length ≤ bound := by
  obtain ⟨_, _, hbounded⟩ := incomplete_iff {}
  rw [hbounded]
  decide

end Request

end WebServer
