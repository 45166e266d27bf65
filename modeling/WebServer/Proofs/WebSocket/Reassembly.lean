import Mathlib.Data.List.DropRight
import WebServer.Proofs.WebSocket.Fragmentation

/-!
# WebServer.Proofs.WebSocket.Reassembly

Messages collected, and messages handed on fragment by fragment. The one way keeps the bytes of
a message that has begun, the other its kind alone. What a frame comes to is said once for both,
by `joined`: it is refused for its place among the others (`push_of_misplaced`,
`fragment_of_misplaced`), or the message it belongs to is too large, or it is taken
(`push_of_joined`, `fragment_of_joined`).

Main statement: both ways see the same messages (`push_agrees_with_fragment`).
-/

namespace WebServer

namespace WebSocket

variable {limit : Nat} {begun : Option (Kind × Bytes)} {kind : Kind} {data : Bytes} {f : Frame}
  {fs gs : List Frame} {m : Message} {e : FrameError}

/-! ## Errors -/

/-- Whether a frame is refused for its place among the others. -/
def FrameError.IsMisplaced (e : FrameError) : Prop :=
  e = .unexpectedContinuation ∨ e = .interleavedMessage

/-- A data frame is refused for its place, or the message it goes on with is too large. -/
theorem of_joined_error (h : joined limit begun f = .error e) :
    e.IsMisplaced ∨ e = .tooLarge limit := by
  match begun with
  | none =>
      rw [joined] at h
      cases hop : f.opcode <;> simp only [hop] at h
      case text | binary => contradiction
      all_goals exact .inl (.inl (Except.error.inj h).symm)
  | some (kind, data) =>
      rw [joined] at h
      split at h
      · exact .inl (.inr (Except.error.inj h).symm)
      split at h
      · exact .inr (Except.error.inj h).symm
      · contradiction

/-- A data frame that is taken begins a message, or goes on with the one that has begun. -/
theorem of_joined_ok (h : joined limit begun f = .ok (kind, data)) :
    (begun = none ∧ f.opcode = kind.opcode ∧ data = f.payload) ∨
      ∃ before, begun = some (kind, before) ∧ f.opcode = .continuation ∧
        data = before ++ f.payload ∧ data.length ≤ limit := by
  match begun with
  | none =>
      left
      rw [joined] at h
      cases hop : f.opcode <;> simp only [hop] at h
      case text | binary =>
        injection h with h
        injection h with hkind hdata
        exact ⟨rfl, by rw [← hkind]; rfl, hdata.symm⟩
      all_goals contradiction
  | some (kind', before) =>
      right
      rw [joined] at h
      split at h
      · contradiction
      next hop =>
        split at h
        · contradiction
        · injection h with h
          injection h with hkind hdata
          subst hkind hdata
          exact ⟨before, rfl, of_not_not hop, rfl, by omega⟩

/-- A message has the kind and the bytes that it was made of. -/
theorem Message.of_ofData (h : Message.ofData kind data = .ok m) :
    m.kind = kind ∧ m.data = data := by
  cases kind with
  | binary =>
      obtain rfl : Message.binary data = m := by simpa [Message.ofData] using h
      exact ⟨rfl, rfl⟩
  | text =>
      unfold Message.ofData at h
      dsimp only at h
      split at h
      · next s hs =>
          injection h with h
          subst h
          exact ⟨rfl, utf8_of_text? hs⟩
      · contradiction

/-- Bytes are no message only if they should be text. -/
theorem Message.ofData_eq_error (h : Message.ofData kind data = .error e) : e = .invalidUtf8 := by
  cases kind with
  | binary => contradiction
  | text =>
      unfold Message.ofData at h
      dsimp only at h
      split at h
      · contradiction
      · injection h with h
        exact h.symm

namespace Reassembler

variable {r r' whole streaming : Reassembler} {handed : List Fragment}

/-! ## One frame -/

theorem fragment_of_control (h : f.opcode.isControl = true) :
    r.fragment f = (.ok none, r) := by
  unfold fragment
  cases hop : f.opcode <;> simp [hop, Opcode.isControl] at h ⊢

/-- A frame that is refused for its place leaves the reassembler as it was. -/
theorem push_of_misplaced (hf : f.opcode.isControl = false)
    (h : joined r.limit r.partialMessage f = .error e) (he : e.IsMisplaced) :
    r.push f = (.error e, r) := by
  obtain ⟨limit, begun, open?⟩ := r
  match begun with
  | none =>
      cases hop : f.opcode <;> simp_all [joined, push, continueWith, Opcode.isControl]
  | some (kind, data) =>
      cases hop : f.opcode with
      | text | binary => simp_all [joined, push, begin]
      | continuation =>
          rw [joined, if_neg (by simp [hop])] at h
          split at h
          · obtain rfl := Except.error.inj h
            rcases he with he | he <;> contradiction
          · contradiction
      | close | ping | pong => simp [hop, Opcode.isControl] at hf

/-- A message that becomes too large is given up. -/
theorem push_of_tooLarge (hf : f.opcode.isControl = false)
    (h : joined r.limit r.partialMessage f = .error (.tooLarge r.limit)) :
    r.push f = (.error (.tooLarge r.limit), { r with partialMessage := none }) := by
  obtain ⟨limit, begun, open?⟩ := r
  match begun with
  | none =>
      cases hop : f.opcode <;> simp_all [joined, Opcode.isControl]
  | some (kind, data) =>
      cases hop : f.opcode with
      | text | binary => simp [joined, hop] at h
      | continuation =>
          rw [joined, if_neg (by simp [hop])] at h
          split at h
          · next hlong =>
              rw [List.length_append] at hlong
              simp [push, hop, continueWith, hlong]
          · contradiction
      | close | ping | pong => simp [hop, Opcode.isControl] at hf

/-- A frame that is taken brings its bytes to the message, and completes it if it is final. -/
theorem push_of_joined (h : joined r.limit r.partialMessage f = .ok (kind, data)) :
    r.push f =
      if f.fin then ((Message.ofData kind data).map some, { r with partialMessage := none })
      else (.ok none, { r with partialMessage := some (kind, data) }) := by
  obtain ⟨limit, begun, open?⟩ := r
  obtain ⟨rfl, hop, rfl⟩ | ⟨before, rfl, hop, rfl, hle⟩ := of_joined_ok h
  · cases kind <;> simp [push, hop, Kind.opcode, begin]
  · rw [List.length_append] at hle
    simp only at hle
    rw [push, hop]
    dsimp only [continueWith]
    rw [if_neg (by omega)]

theorem fragment_of_misplaced (hopen : r.open? = begun.map Prod.fst)
    (hf : f.opcode.isControl = false) (h : joined limit begun f = .error e)
    (he : e.IsMisplaced) : r.fragment f = (.error e, r) := by
  match begun with
  | none =>
      cases hop : f.opcode <;> simp_all [joined, fragment, Opcode.isControl]
  | some (kind, data) =>
      cases hop : f.opcode with
      | text | binary => simp_all [joined, fragment]
      | continuation =>
          rw [joined, if_neg (by simp [hop])] at h
          split at h
          · obtain rfl := Except.error.inj h
            rcases he with he | he <;> contradiction
          · contradiction
      | close | ping | pong => simp [hop, Opcode.isControl] at hf

/-- A frame that is taken is handed on. -/
theorem fragment_of_joined (hopen : r.open? = begun.map Prod.fst)
    (h : joined limit begun f = .ok (kind, data)) :
    r.fragment f = (.ok (some { kind, data := f.payload, last := f.fin }),
      { r with open? := if f.fin then none else some kind }) := by
  obtain ⟨rfl, hop, rfl⟩ | ⟨before, rfl, hop, rfl, _⟩ := of_joined_ok h
  · cases kind <;> simp_all [fragment, Kind.opcode]
  · simp_all [fragment]

/-! ## One frame after the other -/

/-- What frames are answered when fragments are handed on, one after the other, and the
reassembler behind them. -/
def fragmentAll :
    Reassembler → List Frame → List (Except FrameError (Option Fragment)) × Reassembler
  | r, [] => ([], r)
  | r, f :: fs =>
      let (answer, r) := r.fragment f
      let (answers, r) := r.fragmentAll fs
      (answer :: answers, r)

/-- The fragments among the answers. -/
def handedOn (answers : List (Except FrameError (Option Fragment))) : List Fragment :=
  answers.filterMap fun answer => answer.toOption.join

@[simp] theorem handedOn_cons_error (e : FrameError)
    (answers : List (Except FrameError (Option Fragment))) :
    handedOn (.error e :: answers) = handedOn answers := rfl

@[simp] theorem handedOn_cons_ok (g? : Option Fragment)
    (answers : List (Except FrameError (Option Fragment))) :
    handedOn (.ok g? :: answers) = g?.toList ++ handedOn answers := by
  cases g? <;> rfl

@[simp] theorem handedOn_nil : handedOn [] = [] := rfl

theorem pushAll_append (r : Reassembler) (fs gs : List Frame) :
    r.pushAll (fs ++ gs) =
      ((r.pushAll fs).1 ++ ((r.pushAll fs).2.pushAll gs).1, ((r.pushAll fs).2.pushAll gs).2) := by
  induction fs generalizing r with
  | nil => rfl
  | cons f fs ih =>
      rw [List.cons_append, pushAll, pushAll]
      dsimp only
      rw [ih]
      rfl

theorem handedOn_append (as bs : List (Except FrameError (Option Fragment))) :
    handedOn (as ++ bs) = handedOn as ++ handedOn bs :=
  List.filterMap_append

/-! ## Both ways -/

/-- The fragments since the one that completed a message. -/
def current (handed : List Fragment) : List Fragment := handed.rtakeWhile fun g => !g.last

/-- Whether the fragments are all there is of the message that has begun: they have its kind, and
its bytes are theirs. -/
def Gathered (handed : List Fragment) : Option (Kind × Bytes) → Prop
  | none => handed = []
  | some (kind, data) => (∀ g ∈ handed, g.kind = kind) ∧ data = handed.flatMap (·.data)

/-- How the answers to one frame stand to each other, when `handed` are the fragments so far of
the message that has begun. -/
inductive Matches (handed : List Fragment) :
    Except FrameError (Option Message) → Except FrameError (Option Fragment) → Prop
  /-- The frame carries no data. -/
  | control : Matches handed (.ok none) (.ok none)
  /-- The frame is refused. -/
  | misplaced {e : FrameError} : e.IsMisplaced → Matches handed (.error e) (.error e)
  /-- The frame does not complete its message. -/
  | more {g : Fragment} : g.last = false → Matches handed (.ok none) (.ok (some g))
  /-- The frame completes its message. -/
  | last {g : Fragment} {m : Message} : g.last = true → (∀ g' ∈ handed ++ [g], g'.kind = m.kind) →
      m.data = (handed ++ [g]).flatMap (·.data) → Matches handed (.ok (some m)) (.ok (some g))

/-- A reassembler that collects messages, and one that has handed fragments on, are in the middle
of the same message, or of none. -/
structure Agree (whole streaming : Reassembler) (handed : List Fragment) : Prop where
  whole_open? : whole.open? = none
  streaming_partial : streaming.partialMessage = none
  open?_eq : streaming.open? = whole.partialMessage.map Prod.fst
  gathered : Gathered (current handed) whole.partialMessage

theorem current_concat (handed : List Fragment) (g : Fragment) :
    current (handed ++ [g]) = if g.last then [] else current handed ++ [g] := by
  rw [current, List.rtakeWhile_concat]
  cases g.last <;> rfl

theorem Gathered.joined (h : Gathered handed begun)
    (hj : WebSocket.joined limit begun f = .ok (kind, data)) :
    Gathered (handed ++ [{ kind, data := f.payload, last := f.fin }]) (some (kind, data)) := by
  obtain ⟨rfl, _, rfl⟩ | ⟨before, rfl, _, rfl, _⟩ := of_joined_ok hj
  · obtain rfl : handed = [] := h
    simp [Gathered]
  · obtain ⟨hkind, rfl⟩ := h
    simp only [Gathered, List.flatMap_append, List.forall_mem_append,
      List.forall_mem_singleton, List.flatMap_singleton, and_true]
    exact hkind

theorem Agree.inProgress_eq (h : Agree whole streaming handed) :
    whole.inProgress = streaming.inProgress := by
  rw [inProgress, inProgress, h.whole_open?, h.streaming_partial, h.open?_eq]
  cases whole.partialMessage <;> rfl

theorem agree_start (limit limit' : Nat) : Agree { limit } { limit := limit' } [] :=
  ⟨rfl, rfl, rfl, rfl⟩

/-- One frame, given to both. -/
theorem Agree.step (h : Agree whole streaming handed)
    (hlarge : ∀ n, (whole.push f).1 ≠ .error (.tooLarge n))
    (htext : (whole.push f).1 ≠ .error .invalidUtf8) :
    Matches (current handed) (whole.push f).1 (streaming.fragment f).1 ∧
      Agree (whole.push f).2 (streaming.fragment f).2
        (handed ++ handedOn [(streaming.fragment f).1]) := by
  obtain ⟨hwhole, hstreaming, hopen, hgathered⟩ := h
  cases hf : f.opcode.isControl with
  | true =>
      rw [push_of_control hf, fragment_of_control hf]
      exact ⟨.control, hwhole, hstreaming, hopen, by simpa using hgathered⟩
  | false =>
      match hj : WebSocket.joined whole.limit whole.partialMessage f with
      | .error e =>
          rcases of_joined_error hj with he | rfl
          · rw [push_of_misplaced hf hj he, fragment_of_misplaced hopen hf hj he]
            exact ⟨.misplaced he, hwhole, hstreaming, hopen, by simpa using hgathered⟩
          · rw [push_of_tooLarge hf hj] at hlarge
            exact absurd rfl (hlarge whole.limit)
      | .ok (kind, data) =>
          have hnext := hgathered.joined hj
          rw [push_of_joined hj] at htext ⊢
          rw [fragment_of_joined hopen hj]
          cases hfin : f.fin with
          | false =>
              rw [hfin] at hnext
              refine ⟨.more rfl, hwhole, hstreaming, rfl, ?_⟩
              simpa [current_concat] using hnext
          | true =>
              rw [hfin] at hnext htext
              match hm : Message.ofData kind data with
              | .error e =>
                  obtain rfl := Message.ofData_eq_error hm
                  rw [hm] at htext
                  exact absurd rfl htext
              | .ok m =>
                  obtain ⟨rfl, rfl⟩ := Message.of_ofData hm
                  refine ⟨.last rfl hnext.1 hnext.2, hwhole, hstreaming, rfl, ?_⟩
                  simp [current_concat, Gathered]

/-- All frames, given to both. -/
theorem Agree.run (h : Agree whole streaming handed)
    (hlarge : ∀ n, .error (.tooLarge n) ∉ (whole.pushAll fs).1)
    (htext : .error .invalidUtf8 ∉ (whole.pushAll fs).1) :
    Agree (whole.pushAll fs).2 (streaming.fragmentAll fs).2
      (handed ++ handedOn (streaming.fragmentAll fs).1) := by
  induction fs generalizing whole streaming handed with
  | nil => simpa [pushAll, fragmentAll] using h
  | cons f fs ih =>
      rw [pushAll, List.mem_cons, not_or] at htext
      simp only [pushAll, List.mem_cons, not_or] at hlarge
      obtain ⟨_, hnext⟩ := h.step (fun n hn => (hlarge n).1 hn.symm) (fun hn => htext.1 hn.symm)
      have hrest := ih hnext (fun n => (hlarge n).2) htext.2
      rw [List.append_assoc, ← handedOn_append] at hrest
      exact hrest

/-- **Both ways see the same messages.** Frames in any order are given to a new reassembler that
collects messages and to another that hands fragments on. As long as no message is too large or
no text, both refuse the same frames, with the same errors, and are both in the middle of a
message or both not. There is a message exactly when the fragment handed on is the last of one;
it has the kind of the fragments since the previous last one, and their bytes. -/
theorem push_agrees_with_fragment {limit limit' : Nat} (before : List Frame) (f : Frame)
    (hlarge : ∀ n, .error (.tooLarge n) ∉ (({ limit } : Reassembler).pushAll (before ++ [f])).1)
    (htext : .error .invalidUtf8 ∉ (({ limit } : Reassembler).pushAll (before ++ [f])).1) :
    let whole := (({ limit } : Reassembler).pushAll before).2
    let (answers, streaming) := ({ limit := limit' } : Reassembler).fragmentAll before
    Matches (current (handedOn answers)) (whole.push f).1 (streaming.fragment f).1 ∧
      (whole.push f).2.inProgress = (streaming.fragment f).2.inProgress := by
  simp only [pushAll_append, List.mem_append, not_or] at hlarge htext
  have hbefore := (agree_start limit limit').run (fun n => (hlarge n).1) htext.1
  obtain ⟨hmatches, hagree⟩ := hbefore.step (f := f)
    (fun n hn => (hlarge n).2 (by simp [pushAll, hn])) (fun hn => htext.2 (by simp [pushAll, hn]))
  exact ⟨hmatches, hagree.inProgress_eq⟩

/-- A text in three fragments, the second of them empty, between a stray continuation, a ping and
another text that is refused. -/
theorem push_agrees_with_fragment_of_interleaved :
    let first : Frame := { fin := false, opcode := .text, payload := [0x68] }
    let second : Frame := { fin := false, opcode := .continuation, payload := [] }
    let third : Frame := { opcode := .continuation, payload := [0x69] }
    let before := [third, first, .ping [1], .text "x", second]
    let handed : List Fragment := [⟨.text, [0x68], false⟩, ⟨.text, [], false⟩]
    (({ limit := 2 } : Reassembler).pushAll (before ++ [third])).1 =
        [.error .unexpectedContinuation, .ok none, .ok none, .error .interleavedMessage, .ok none,
          .ok (some (.text "hi"))] ∧
      Matches handed (.ok (some (.text "hi"))) (.ok (some ⟨.text, [0x69], true⟩)) := by
  intro first second third before handed
  have hutf8 : utf8 "hi" = [0x68, 0x69] := by decide +kernel
  have hi : Message.ofData .text [0x68, 0x69] = .ok (.text "hi") := by
    rw [← hutf8]
    exact Message.ofData_data (.text "hi")
  have hlast : (⟨2, some (.text, [0x68]), none⟩ : Reassembler).push third =
      (.ok (some (.text "hi")), { limit := 2 }) := by
    have hjoined : joined 2 (some (.text, [0x68])) third = .ok (.text, [0x68, 0x69]) := rfl
    rw [push_of_joined hjoined, hi]
    rfl
  have hbefore : ({ limit := 2 } : Reassembler).pushAll before =
      ([.error .unexpectedContinuation, .ok none, .ok none, .error .interleavedMessage, .ok none],
        ⟨2, some (.text, [0x68]), none⟩) := rfl
  have hanswers : (({ limit := 2 } : Reassembler).pushAll (before ++ [third])).1 =
      [.error .unexpectedContinuation, .ok none, .ok none, .error .interleavedMessage, .ok none,
        .ok (some (.text "hi"))] := by
    rw [pushAll_append, hbefore, pushAll, hlast]
    rfl
  have hagrees := @push_agrees_with_fragment 2 2 before third (by simp [hanswers])
    (by simp [hanswers])
  rw [hbefore] at hagrees
  dsimp only at hagrees
  rw [hlast] at hagrees
  exact ⟨hanswers, hagrees.1⟩

end Reassembler

end WebSocket

end WebServer
