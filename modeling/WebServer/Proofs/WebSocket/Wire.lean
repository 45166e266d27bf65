import WebServer.Proofs.Text.Line
import WebServer.Proofs.WebSocket.Closing

/-!
# WebServer.Proofs.WebSocket.Wire

What a session writes, read back. All frames that a session sends are whole and unmasked,
and what follows the code of a Close frame is the longest beginning of the reason that fits
(`prefix_cutText_iff`). So what is written is read back frame by frame, unless there is a
ping among the frames that is longer than a control frame may be.

Main statement: `runOpen_readable_iff`.
-/

namespace WebServer

namespace WebSocket

open Outbox

/-! ## Reasons -/

/-- The text is cut to its longest beginning that fits. -/
theorem prefix_cutText_iff {n : Nat} {t cs : List Char} :
    t <+: cutText n cs ↔ t <+: cs ∧ (utf8 (String.ofList t)).length ≤ n := by
  induction cs generalizing n t with
  | nil =>
      rw [cutText, List.prefix_nil]
      constructor
      · rintro rfl
        exact ⟨rfl, Nat.zero_le _⟩
      · exact fun h => h.1
  | cons c cs ih =>
      cases t with
      | nil => exact ⟨fun _ => ⟨List.nil_prefix, Nat.zero_le _⟩, fun _ => List.nil_prefix⟩
      | cons c' t =>
          rw [cutText, List.cons_prefix_cons, length_utf8_cons]
          split
          · rw [List.cons_prefix_cons, ih]
            constructor
            · rintro ⟨rfl, ht, hle⟩
              exact ⟨⟨rfl, ht⟩, by omega⟩
            · rintro ⟨⟨rfl, ht⟩, hle⟩
              exact ⟨rfl, ht, by omega⟩
          · refine ⟨fun h => by simp at h, ?_⟩
            rintro ⟨⟨rfl, _⟩, hle⟩
            omega

theorem length_cutText_le (n : Nat) (cs : List Char) :
    (utf8 (String.ofList (cutText n cs))).length ≤ n :=
  (prefix_cutText_iff.1 (List.prefix_refl (cutText n cs))).2

namespace Frame

theorem length_payload_close_le (code : UInt16) (reason : String) :
    (close code reason).payload.length ≤ maxControlPayload := by
  have hcut := length_cutText_le (maxControlPayload - 2) reason.toList
  simp only [close, bigEndian16, List.length_append, List.length_cons, List.length_nil,
    maxControlPayload] at hcut ⊢
  omega

/-! ## Frames of a session -/

/-- The frame is whole and unmasked, and if it controls the connection and is no ping, it is
short enough. -/
structure IsOwn (limit : Nat) (f : Frame) : Prop where
  fin : f.fin = true
  unmasked : f.masked = false
  size : f.payload.length ≤ limit
  control : f.opcode.isControl = true → f.opcode ≠ .ping → f.payload.length ≤ maxControlPayload

theorem IsOwn.isLegal {limit : Nat} {f : Frame} (h : f.IsOwn limit)
    (hping : f.opcode = .ping → f.payload.length ≤ maxControlPayload) : f.IsLegal limit where
  size := h.size
  control hc := by
    refine ⟨h.fin, ?_⟩
    by_cases hp : f.opcode = .ping
    · exact hping hp
    · exact h.control hc hp

/-- What is read is legal. -/
theorem isLegal_of_readAll {limit : Nat} {bs : Bytes} :
    ∀ f ∈ (readAll limit bs).1, f.IsLegal limit := by
  fun_induction readAll limit bs with
  | case1 => simp
  | case2 => simp
  | case3 bs f n h fs e hrest ih =>
      rw [hrest] at ih
      exact List.forall_mem_cons.2 ⟨(isRead_of_parse h).legal, ih⟩

/-- Frames of a session are read back exactly if none is a ping that is too long. -/
theorem readAll_encodeAll_iff {limit : Nat} {fs : List Frame} (hlimit : limit < UInt64.size)
    (hfs : ∀ f ∈ fs, f.IsOwn limit) :
    readAll limit (encodeAll fs) = (fs, none) ↔
      ∀ f ∈ fs, f.opcode = .ping → f.payload.length ≤ maxControlPayload := by
  constructor
  · intro hread f hf hping
    have hmem : f ∈ (readAll limit (encodeAll fs)).1 := by
      rw [hread]
      exact hf
    have hlegal := isLegal_of_readAll f hmem
    exact (hlegal.control (by rw [hping]; rfl)).2
  · intro hping
    have hread := readAll_encodeAll_append hlimit
      (fun f hf => ⟨(hfs f hf).isLegal (hping f hf), (hfs f hf).unmasked⟩) []
    have hnil : readAll limit [] = ([], none) := readAll_of_none rfl
    rwa [List.append_nil, hnil, List.append_nil] at hread

/-- A beginning of one more frame makes no difference. -/
theorem readAll_encodeAll_of_prefix {limit : Nat} {fs : List Frame} {f : Frame} {p : Bytes}
    (hlimit : limit < UInt64.size) (hfs : ∀ g ∈ f :: fs, g.IsLegal limit ∧ g.masked = false)
    (hp : p <+: f.encode none) (hlt : p.length < (f.encode none).length) :
    readAll limit (encodeAll fs ++ p) = (fs, none) := by
  have hread := readAll_encodeAll_append hlimit
    (fun g hg => hfs g (List.mem_cons_of_mem f hg)) p
  have hcut := parse_of_prefix_encode (hfs f List.mem_cons_self).1 hlimit hp hlt
  rwa [readAll_of_none hcut, List.append_nil] at hread

end Frame

namespace Session

variable {cfg : SessionConfig} {buffered : Bytes} {l : Link}

/-- The most bytes that there is a length for. -/
def noLimit : Nat := UInt64.size - 1

theorem permits_isOwn {h : Handler} (hsends : h.Sends fun f => f.payload.length ≤ noLimit) :
    Permits (Frame.IsOwn noLimit) h where
  handler := hsends.mono fun a f hf hsize => by
    cases a with
    | text | binary =>
        obtain rfl := Option.some.inj hf
        exact ⟨rfl, rfl, hsize, fun hc => Bool.noConfusion hc⟩
    | ping =>
        obtain rfl := Option.some.inj hf
        exact ⟨rfl, rfl, hsize, fun _ hne => absurd rfl hne⟩
    | close code reason =>
        obtain rfl := Option.some.inj hf
        exact ⟨rfl, rfl, hsize, fun _ _ => Frame.length_payload_close_le code reason⟩
    | delay | isClosing => contradiction
  pong data hdata := ⟨rfl, rfl, Nat.le_trans hdata (by decide), fun _ _ => hdata⟩
  close code _ := ⟨rfl, rfl, Nat.le_trans (Frame.length_payload_close_le code "") (by decide),
    fun _ _ => Frame.length_payload_close_le code ""⟩
  bare := ⟨rfl, rfl, Nat.zero_le _, fun _ _ => Nat.zero_le _⟩

/-- **What a session writes is read back, unless a ping is too long.** Whatever its handler
sends and whatever comes in, a session writes the frames that hooks were told are sent, and
its own, in order, all whole and unmasked and with their payloads, and perhaps a beginning of
the next one; of the reason of a Close frame it writes the longest beginning that fits. A
reader without a limit reads these frames back, and no error, exactly if there is no ping of
more than 125 bytes among them. -/
theorem runOpen_readable_iff (cfg : SessionConfig) (buffered : Bytes) (l : Link)
    (hsends : cfg.handler.Sends fun f => f.payload.length ≤ noLimit) :
    (∀ o a f, a.frame? = some f → (f.opcode = .close → o.closing = false) →
      (perform o a).2.accepted =
        if (perform o a).1 = some true then f :: o.accepted else o.accepted) ∧
    (∀ code reason, ∃ cut,
      (Frame.close code reason).payload = bigEndian16 code.toNat ++ utf8 (String.ofList cut) ∧
      ∀ t, t <+: cut ↔ t <+: reason.toList ∧ (utf8 (String.ofList t)).length ≤ 123) ∧
    ∃ ws rest p,
      (runOpen cfg buffered l).2.link.sink.output = l.sink.output ++ Frame.encodeAll ws ++ p ∧
      (runOpen cfg buffered l).2.accepted.reverse = ws ++ rest ∧
      (p ≠ [] → ∃ f fs, rest = f :: fs ∧ p <+: f.encode none ∧
        p.length < (f.encode none).length) ∧
      (∀ f ∈ ws ++ rest, f.fin = true ∧ f.masked = false) ∧
      (Frame.readAll noLimit (Frame.encodeAll ws) = (ws, none) ↔
        ∀ f ∈ ws, f.opcode = .ping → f.payload.length ≤ maxControlPayload) ∧
      ((∀ f ∈ ws ++ rest, f.opcode = .ping → f.payload.length ≤ maxControlPayload) →
        Frame.readAll noLimit (Frame.encodeAll ws ++ p) = (ws, none)) := by
  have hp := permits_isOwn hsends
  obtain ⟨ds, hread, _⟩ := course_openAndRead hp (start cfg buffered l)
  obtain ⟨es, o, hlast, hturn⟩ := course_runOpen hp buffered l
  have hcourse := hread.trans hlast
  obtain ⟨ws, rest, p, hend, _⟩ := hturn.wrote (hcourse.wrote ⟨_, _, _, wrote_new l⟩)
  have hown : ∀ f ∈ ws ++ rest, f.IsOwn noLimit := by
    intro f hf
    rw [← hend.accepted, List.mem_reverse, hturn.accepted] at hf
    exact hcourse.forall_accepted (fun _ h => absurd h List.not_mem_nil) f hf
  have hws : ∀ f ∈ ws, f.IsOwn noLimit := fun f hf => hown f (List.mem_append_left _ hf)
  have hlimit : noLimit < UInt64.size := by decide
  refine ⟨fun o a f ha hf => accepted_perform ha hf, fun code reason => ?_, ws, rest, p,
    hend.output, hend.accepted, hend.cut, fun f hf => ⟨(hown f hf).fin, (hown f hf).unmasked⟩,
    Frame.readAll_encodeAll_iff hlimit hws, fun hping => ?_⟩
  · exact ⟨cutText 123 reason.toList, rfl, fun t => prefix_cutText_iff⟩
  · have hlegal : ∀ f ∈ ws ++ rest, f.IsLegal noLimit ∧ f.masked = false := fun f hf =>
      ⟨(hown f hf).isLegal (hping f hf), (hown f hf).unmasked⟩
    by_cases hcut : p = []
    · rw [hcut, List.append_nil, Frame.readAll_encodeAll_iff hlimit hws]
      exact fun f hf => hping f (List.mem_append_left _ hf)
    · obtain ⟨f, fs, rfl, hprefix, hlt⟩ := hend.cut hcut
      refine Frame.readAll_encodeAll_of_prefix hlimit (fun g hg => hlegal g ?_) hprefix hlt
      rcases List.mem_cons.1 hg with rfl | hg
      · simp
      · exact List.mem_append_left _ hg

/-- A handler that sends a ping of some bytes. -/
def pinging (n : Nat) : SessionConfig where
  handler :=
    { name := "pinging"
      onOpen := .perform (.ping (List.replicate n 97)) fun _ => .finish .returned }
  limit := 100
  patience := 50

/-- A ping of 126 bytes is written as it is, and refused by whoever reads it. -/
theorem runOpen_readable_iff_of_long_ping :
    let output := (runOpen (pinging 126) [] { timeline := [(1, .eof)] }).2.link.sink.output
    (pinging 126).handler.Sends (fun f => f.payload.length ≤ noLimit) ∧
      output = [0x89, 0x7E, 0, 126] ++ List.replicate 126 97 ∧
      Frame.readAll noLimit output = ([], some .controlTooLarge) ∧
      ∃ ws rest p, output = Frame.encodeAll ws ++ p ∧
        ∃ f ∈ ws ++ rest, f.opcode = .ping ∧ maxControlPayload < f.payload.length := by
  intro output
  have hsize : (Frame.ping (List.replicate 126 97)).payload.length ≤ noLimit := by
    simp [Frame.ping, noLimit]
  have hsends : (pinging 126).handler.Sends fun f => f.payload.length ≤ noLimit :=
    ⟨⟨fun f hf => Option.some.inj hf ▸ hsize, fun _ => trivial⟩, fun _ _ => trivial,
      fun _ => trivial⟩
  have houtput : output = [0x89, 0x7E, 0, 126] ++ List.replicate 126 97 := by decide +kernel
  have hrefused : Frame.readAll noLimit output = ([], some .controlTooLarge) := by
    rw [houtput]
    exact Frame.readAll_of_error (by decide +kernel)
  obtain ⟨_, _, ws, rest, p, hout, _, _, _, _, hread⟩ :=
    runOpen_readable_iff (pinging 126) [] { timeline := [(1, .eof)] } hsends
  refine ⟨hsends, houtput, hrefused, ws, rest, p, hout, ?_⟩
  refine Classical.byContradiction fun hshort => ?_
  have hnone := hread fun f hf hping => Nat.not_lt.1 fun hlong => hshort ⟨f, hf, hping, hlong⟩
  have hsame : Frame.encodeAll ws ++ p = output := hout.symm
  rw [hsame, hrefused] at hnone
  simp at hnone

end Session

end WebSocket

end WebServer
