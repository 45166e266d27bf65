import WebServer.Proofs.Text.Boundary
import WebServer.Proofs.WebSocket.MessageSize

/-!
# WebServer.Proofs.WebSocket.Reason

The reason of a Close frame. A reason that is too long is cut between two characters, so that what
is kept of it is text again. The place is found from behind: from the last byte that there is room
for, one byte after the other is given up until a character ends there (`closeFromBehind?`). That
comes to the same as to take characters from the front while there is room for them.

Main statement: `close_cuts_between_characters`.
-/

namespace WebServer

namespace WebSocket

/-- What is taken from the front is the longest beginning. -/
theorem isLongestCut_cutText (n : Nat) (s : String) :
    IsLongestCut n s (String.ofList (cutText n s.toList)) := by
  obtain ⟨⟨behind, hs⟩, hsize⟩ := prefix_cutText_iff.1 (List.prefix_refl (cutText n s.toList))
  refine ⟨⟨String.ofList behind, ?_⟩, hsize, fun t behind' ht hle => ?_⟩
  · rw [← String.ofList_append, hs, String.ofList_toList]
  · have hbegins : t.toList <+: s.toList := ⟨behind'.toList, by rw [ht, String.toList_append]⟩
    rw [← String.ofList_toList (s := t)] at hle
    obtain ⟨more, hmore⟩ := prefix_cutText_iff.2 ⟨hbegins, hle⟩
    refine ⟨String.ofList more, ?_⟩
    rw [← hmore, String.ofList_append, String.ofList_toList]

namespace Frame

variable {code : UInt16} {reason cut : String} {limit : Nat}

/-- A close with a code and a reason that is cut from behind; `none` if that leaves the bytes of
the reason. -/
def closeFromBehind? (code : UInt16) (reason : String) : Option Frame := do
  let bs := utf8 reason
  let stop ← backToBoundary? bs (min bs.length (maxControlPayload - 2))
  if stop ≤ bs.length then
    return { opcode := .close, payload := bigEndian16 code.toNat ++ bs.take stop }
  else none

/-- Cut from behind, the reason is left with its longest beginning. -/
theorem closeFromBehind?_of_isLongestCut (h : IsLongestCut (maxControlPayload - 2) reason cut) :
    closeFromBehind? code reason =
      some { opcode := .close, payload := bigEndian16 code.toNat ++ utf8 cut } := by
  have htake : (utf8 reason).take (utf8 cut).length = utf8 cut := by
    obtain ⟨behind, rfl⟩ := h.eq_append
    rw [utf8_append, List.take_left]
  simp only [closeFromBehind?, h.backToBoundary?_eq, Option.bind_eq_bind, Option.bind_some, htake,
    if_pos h.length_le, Option.pure_def]

theorem isLegal_close (h : (close code reason).payload.length ≤ limit) :
    (close code reason).IsLegal limit :=
  ⟨h, fun _ => ⟨rfl, length_payload_close_le code reason⟩⟩

/-- A close that is written is read back with every limit that it keeps. -/
theorem parse_encode_close_append (code : UInt16) (reason : String) (key : Option MaskKey)
    (rest : Bytes) (limit : Nat) :
    parse ((close code reason).encode key ++ rest) limit =
      if limit < (close code reason).payload.length then .error (.tooLarge limit)
      else .ok (some ({ close code reason with masked := key.isSome },
        ((close code reason).encode key).length)) :=
  parse_with_limit (parse_encode_append (isLegal_close (length_payload_close_le code reason))
    (by decide) key rest) limit

/-- **A reason is cut between two characters.** Whatever code and reason are given, going back from
the last byte that there is room for ends inside the reason, after three bytes at most, and the
payload is the code with the longest beginning of the reason that has at most 123 bytes. So it has
at most 125 bytes, what stands behind the code is text, and the frame is read back with its code,
masked or not and whatever follows it, unless the reader has a limit that the payload exceeds. -/
theorem close_cuts_between_characters (code : UInt16) (reason : String) :
    ∃ cut, IsLongestCut 123 reason cut ∧
      backToBoundary? (utf8 reason) (min (utf8 reason).length 123) = some (utf8 cut).length ∧
      min (utf8 reason).length 123 ≤ (utf8 cut).length + 3 ∧
      closeFromBehind? code reason = some (close code reason) ∧
      (close code reason).payload = bigEndian16 code.toNat ++ utf8 cut ∧
      (close code reason).payload.length ≤ 125 ∧
      text? ((close code reason).payload.drop 2) = some cut ∧
      ∀ key rest limit,
        let f : Frame := { close code reason with masked := key.isSome }
        f.closeCode? = some code ∧
          parse ((close code reason).encode key ++ rest) limit =
            if limit < f.payload.length then .error (.tooLarge limit)
            else .ok (some (f, ((close code reason).encode key).length)) := by
  have hcut := isLongestCut_cutText 123 reason
  refine ⟨_, hcut, hcut.backToBoundary?_eq, hcut.min_le_add_three,
    closeFromBehind?_of_isLongestCut hcut, rfl, length_payload_close_le code reason, ?_,
    fun key rest limit => ⟨closeCode?_close code reason,
      parse_encode_close_append code reason key rest limit⟩⟩
  exact text?_utf8 _

/-- A character of four bytes that begins at byte 121 is left out whole. -/
example :
    let reason := String.ofList (List.replicate 121 'x' ++ ['😀'])
    backToBoundary? (utf8 reason) 123 = some 121 ∧
      (close 1001 reason).payload = [3, 233] ++ List.replicate 121 120 := by
  decide +kernel

end Frame

end WebSocket

end WebServer
