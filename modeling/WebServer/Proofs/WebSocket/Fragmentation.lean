import WebServer.Proofs.WebSocket.Transcript

/-!
# WebServer.Proofs.WebSocket.Fragmentation

Messages in fragments. `Carries` says which frames carry some bytes: they are cut anywhere,
also inside a character, and into pieces that may be empty. `Yields` says what a reassembler
makes of frames: it never fails, and gives a message at each final data frame and nowhere else.

Main statement: whatever control frames come in between, the messages come out as they were
(`pushAll_of_fragments`).
-/

namespace WebServer

namespace WebSocket

/-! ## Frames that carry messages -/

/-- The opcode of the first frame of a message. -/
def Kind.opcode : Kind → Opcode
  | .text => .text
  | .binary => .binary

/-- Frames that carry some bytes, the first with an opcode and the others as continuations.
Only the last is final. -/
inductive Frame.Carries : Opcode → Bytes → List Frame → Prop where
  | final {f : Frame} : f.fin = true → Carries f.opcode f.payload [f]
  | more {f : Frame} {data : Bytes} {fs : List Frame} :
      f.fin = false → Carries .continuation data fs →
        Carries f.opcode (f.payload ++ data) (f :: fs)

/-- Frames that carry a message. -/
def Message.IsCutInto (m : Message) (fs : List Frame) : Prop :=
  Frame.Carries m.kind.opcode m.data fs

/-- Whether a frame carries data. -/
def Frame.isData (f : Frame) : Bool := !f.opcode.isControl

/-- Whether a frame is the last of a message. -/
def Frame.endsMessage (f : Frame) : Bool := f.fin && f.isData

variable {limit : Nat} {begun : Option (Kind × Bytes)} {data : Bytes} {f : Frame}
  {fs gs : List Frame} {m : Message} {ms ms' : List Message} {r r' r'' : Reassembler}

/-- The message that its kind and its bytes make is the message itself. -/
theorem Message.ofData_data (m : Message) : Message.ofData m.kind m.data = .ok m := by
  cases m with
  | text s => simp [Message.ofData, Message.kind, Message.data, text?_utf8]
  | binary d => rfl

/-! ## One frame after the other -/

namespace Reassembler

/-- What frames are answered, one after the other, and the reassembler behind them. -/
def pushAll : Reassembler → List Frame → List (Except FrameError (Option Message)) × Reassembler
  | r, [] => ([], r)
  | r, f :: fs =>
      let (answer, r) := r.push f
      let (answers, r) := r.pushAll fs
      (answer :: answers, r)

/-- No frame is refused, and the messages come out in order: one at each frame that is the
last of a message, and none at any other. -/
def Yields (r : Reassembler) (fs : List Frame) (ms : List Message) (r' : Reassembler) : Prop :=
  ∃ answers : List (Option Message), r.pushAll fs = (answers.map .ok, r') ∧
    answers.map Option.isSome = fs.map Frame.endsMessage ∧ answers.filterMap id = ms

theorem yields_nil (r : Reassembler) : r.Yields [] [] r := ⟨[], rfl, rfl, rfl⟩

theorem yields_cons {m? : Option Message} (hpush : r.push f = (.ok m?, r'))
    (hends : m?.isSome = f.endsMessage) (h : r'.Yields fs ms r'') :
    r.Yields (f :: fs) (m?.toList ++ ms) r'' := by
  obtain ⟨answers, hall, hplaces, hmessages⟩ := h
  refine ⟨m? :: answers, ?_, ?_, ?_⟩
  · rw [pushAll, hpush]
    dsimp only
    rw [hall]
    rfl
  · rw [List.map_cons, List.map_cons, hplaces, hends]
  · cases m? with
    | none => exact hmessages
    | some m => exact congrArg (m :: ·) hmessages

theorem Yields.append (h : r.Yields fs ms r') (h' : r'.Yields gs ms' r'') :
    r.Yields (fs ++ gs) (ms ++ ms') r'' := by
  obtain ⟨answers, hall, hplaces, rfl⟩ := h
  induction fs generalizing r answers with
  | nil =>
      obtain rfl : answers = [] := by simpa using hplaces
      obtain rfl : r = r' := congrArg Prod.snd hall
      exact h'
  | cons f fs ih =>
      cases answers with
      | nil => simp at hplaces
      | cons m? answers =>
          rw [List.map_cons, List.map_cons, List.cons.injEq] at hplaces
          rw [pushAll] at hall
          generalize hpush : r.push f = pushed at hall
          obtain ⟨answer, r₁⟩ := pushed
          simp only [List.map_cons, Prod.mk.injEq, List.cons.injEq] at hall
          obtain ⟨⟨rfl, hrest⟩, hlast⟩ := hall
          have hyields := yields_cons hpush hplaces.1
            (ih answers (Prod.ext hrest hlast) hplaces.2)
          cases m? <;> simpa using hyields

theorem push_of_control (h : f.opcode.isControl = true) : r.push f = (.ok none, r) := by
  rw [push]
  cases hop : f.opcode <;> simp [hop, Opcode.isControl] at h ⊢

/-- Control frames give nothing and change nothing. -/
theorem yields_of_control (h : ∀ f ∈ fs, f.isData = false) : r.Yields fs [] r := by
  induction fs with
  | nil => exact yields_nil r
  | cons f fs ih =>
      obtain ⟨hf, hfs⟩ := List.forall_mem_cons.1 h
      have hcontrol : f.opcode.isControl = true := by simpa [Frame.isData] using hf
      exact yields_cons (push_of_control hcontrol)
        (by simp [Frame.endsMessage, Frame.isData, hcontrol]) (ih hfs)

/-! ## One message -/

/-- What the fragments of a message have to say: the opcode of the next one, and the bytes that
are still missing. -/
structure Awaits (m : Message) (begun : Option (Kind × Bytes)) (op : Opcode) (data : Bytes) :
    Prop where
  begins : begun = none → op = m.kind.opcode ∧ data = m.data
  goesOn : ∀ kind before, begun = some (kind, before) →
    kind = m.kind ∧ op = .continuation ∧ before ++ data = m.data

theorem awaits_none (m : Message) : Awaits m none m.kind.opcode m.data :=
  ⟨fun _ => ⟨rfl, rfl⟩, fun _ _ h => by simp at h⟩

/-- A frame that brings the next bytes of a message is joined to it. -/
theorem Awaits.joined_eq {rest : Bytes} (h : Awaits m begun f.opcode (f.payload ++ rest))
    (hm : m.data.length ≤ limit) :
    ∃ sofar, joined limit begun f = .ok (m.kind, sofar) ∧ sofar ++ rest = m.data := by
  cases begun with
  | none =>
      obtain ⟨hop, hdata⟩ := h.begins rfl
      refine ⟨f.payload, ?_, hdata⟩
      rw [joined, hop]
      cases m <;> rfl
  | some begun =>
      obtain ⟨kind, before⟩ := begun
      obtain ⟨rfl, hop, hdata⟩ := h.goesOn kind before rfl
      rw [← List.append_assoc] at hdata
      refine ⟨before ++ f.payload, ?_, hdata⟩
      have hlength := congrArg List.length hdata
      rw [List.length_append] at hlength
      rw [joined, if_neg (by simp [hop]), if_neg (by omega)]

theorem isControl_of_awaits (h : Awaits m begun f.opcode data) : f.opcode.isControl = false := by
  cases begun with
  | none =>
      rw [(h.begins rfl).1]
      cases m <;> rfl
  | some begun =>
      obtain ⟨_, hop, _⟩ := h.goesOn begun.1 begun.2 rfl
      rw [hop]
      rfl

/-- The last fragment gives the message. -/
theorem push_of_final (h : Awaits m r.partialMessage f.opcode f.payload)
    (hm : m.data.length ≤ r.limit) (hfin : f.fin = true) :
    r.push f = (.ok (some m), { r with partialMessage := none }) := by
  have hlast : Awaits m r.partialMessage f.opcode (f.payload ++ []) := by rwa [List.append_nil]
  obtain ⟨sofar, hjoined, hdata⟩ := hlast.joined_eq hm
  rw [List.append_nil] at hdata
  have hanswers := answers_push r (isControl_of_awaits h)
  rw [said, hjoined, hdata] at hanswers
  simpa [hfin, Message.ofData_data, Except.map, Answers] using hanswers

/-- A fragment that is not the last gives nothing, and the rest of the message is awaited. -/
theorem push_of_more {rest : Bytes} (h : Awaits m r.partialMessage f.opcode (f.payload ++ rest))
    (hm : m.data.length ≤ r.limit) (hfin : f.fin = false) :
    ∃ begun, r.push f = (.ok none, { r with partialMessage := begun }) ∧
      Awaits m begun .continuation rest := by
  obtain ⟨sofar, hjoined, hdata⟩ := h.joined_eq hm
  have hanswers := answers_push r (isControl_of_awaits h)
  rw [said, hjoined] at hanswers
  refine ⟨some (m.kind, sofar), by simpa [hfin, Answers] using hanswers, by simp, ?_⟩
  rintro kind before ⟨⟩
  exact ⟨rfl, rfl, hdata⟩

/-- The fragments of a message, with control frames in between, give the message. The induction
is on the fragments: what is in front of the next one are control frames. -/
theorem yields_of_carries {op : Opcode} (hcarries : Frame.Carries op data gs)
    (h : Awaits m r.partialMessage op data) (hm : m.data.length ≤ r.limit)
    (hfs : fs.filter Frame.isData = gs) :
    r.Yields fs [m] { r with partialMessage := none } := by
  induction hcarries generalizing r fs with
  | @final f hfin =>
      obtain ⟨before, behind, rfl, hbefore, hf, hbehind⟩ := List.filter_eq_cons_iff.1 hfs
      have hpush := push_of_final h hm hfin
      have hends : (some m).isSome = f.endsMessage := by
        simpa [Frame.endsMessage, hfin] using hf.symm
      have hyields := yields_cons hpush hends (yields_of_control (by simpa using hbehind))
      exact (yields_of_control (by simpa using hbefore)).append hyields
  | @more f data gs hfin _ ih =>
      obtain ⟨before, behind, rfl, hbefore, _, hbehind⟩ := List.filter_eq_cons_iff.1 hfs
      obtain ⟨begun, hpush, hnext⟩ := push_of_more h hm hfin
      have hends : (none : Option Message).isSome = f.endsMessage := by
        simp [Frame.endsMessage, hfin]
      have hyields := yields_cons hpush hends (ih hnext hm hbehind)
      exact (yields_of_control (by simpa using hbefore)).append hyields

/-! ## Many messages -/

/-- **Fragmentation is transparent.** Take any messages within the limit, cut each into
fragments, and put control frames in any places: a reassembler that is not in the middle of a
message gives each message at its last fragment and nothing at any other frame, refuses no
frame, and is afterwards as it was. -/
theorem pushAll_of_fragments {parts : List (Message × List Frame)} (hr : r.inProgress = false)
    (hparts : ∀ p ∈ parts, p.1.IsCutInto p.2 ∧ p.1.data.length ≤ r.limit)
    (hfs : fs.filter Frame.isData = parts.flatMap (·.2)) :
    ∃ answers : List (Option Message), r.pushAll fs = (answers.map .ok, r) ∧
      answers.map Option.isSome = fs.map Frame.endsMessage ∧
      answers.filterMap id = parts.map (·.1) := by
  have hidle : r.partialMessage = none := by
    simp only [inProgress, Bool.or_eq_false_iff, Option.isSome_eq_false_iff,
      Option.isNone_iff_eq_none] at hr
    exact hr.1
  show r.Yields fs (parts.map (·.1)) r
  induction parts generalizing fs with
  | nil => exact yields_of_control (by simpa using hfs)
  | cons p parts ih =>
      obtain ⟨⟨hcut, hm⟩, hparts⟩ := List.forall_mem_cons.1 hparts
      rw [List.flatMap_cons] at hfs
      obtain ⟨fs₁, fs₂, rfl, hfirst, hothers⟩ := List.filter_eq_append_iff.1 hfs
      have hawaits : Awaits p.1 r.partialMessage p.1.kind.opcode p.1.data := by
        rw [hidle]
        exact awaits_none p.1
      have hmessage := yields_of_carries hcut hawaits hm hfirst
      rw [← hidle] at hmessage
      exact hmessage.append (ih hparts hothers)

/-- A text is cut inside its last character, with an empty fragment and pings in between, and
an empty binary message follows. -/
theorem pushAll_of_fragments_inside_character :
    let first : Frame := { fin := false, opcode := .text, payload := [0x68, 0xC3] }
    let second : Frame := { fin := false, opcode := .continuation, payload := [] }
    let third : Frame := { opcode := .continuation, payload := [0xA9] }
    let other : Frame := { opcode := .binary, payload := [] }
    let parts := [(Message.text "h\u00e9", [first, second, third]), (.binary [], [other])]
    let fs := [first, .ping [1], second, third, .pong [], other]
    let r : Reassembler := { limit := 3 }
    r.inProgress = false ∧ (∀ p ∈ parts, p.1.IsCutInto p.2 ∧ p.1.data.length ≤ r.limit) ∧
      fs.filter Frame.isData = parts.flatMap (·.2) ∧
      ∃ answers : List (Option Message), r.pushAll fs = (answers.map .ok, r) ∧
        answers.map Option.isSome = [false, false, false, true, false, true] ∧
        answers.filterMap id = [.text "h\u00e9", .binary []] := by
  intro first second third other parts fs r
  have htext : utf8 "h\u00e9" = [0x68, 0xC3] ++ ([] ++ [0xA9]) := by decide +kernel
  have hparts : ∀ p ∈ parts, p.1.IsCutInto p.2 ∧ p.1.data.length ≤ r.limit := by
    refine List.forall_mem_cons.2 ⟨⟨?_, ?_⟩, List.forall_mem_singleton.2 ⟨?_, Nat.zero_le _⟩⟩
    · rw [Message.IsCutInto, Message.data, htext]
      exact .more (f := first) rfl (.more (f := second) rfl (.final (f := third) rfl))
    · rw [Message.data, htext]
      decide
    · exact .final (f := other) rfl
  exact ⟨rfl, hparts, rfl, pushAll_of_fragments rfl hparts rfl⟩

end Reassembler

end WebSocket

end WebServer
