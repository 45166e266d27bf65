import WebServer.Proofs.Traversal
import WebServer.Proofs.WebSocket.Reassembly
import WebServer.Proofs.WebSocket.Wire

/-!
# WebServer.Proofs.WebSocket.MessageSize

How large a message may become. A frame is measured when it is read, and a message when a frame
goes on with it; the first frame of a message is measured by the reader alone. Both together keep
whatever is collected within the limit (`length_of_joined`).

To speak of frames that are too large for the reader, they are read with a wider limit
(`parse_with_limit`).

Main statement: `pushAll_within_limit`.
-/

namespace WebServer

namespace WebSocket

/-! ## Frames that are too large -/

namespace Frame

variable {wide n : Nat} {bs : Bytes} {f g : Frame} {fs gs : List Frame}

/-- A frame that is read with some limit is read with any other, or refused for its size. -/
theorem parse_with_limit (h : parse bs wide = .ok (some (f, n))) (limit : Nat) :
    parse bs limit =
      if limit < f.payload.length then .error (.tooLarge limit) else .ok (some (f, n)) := by
  match bs, h with
  | [], h | [_], h => simp [parse] at h
  | b0 :: b1 :: rest, h =>
      simp only [parse] at h ⊢
      split at h
      · contradiction
      next hreserved =>
      rw [if_neg hreserved]
      split at h
      · contradiction
      next opcode hop =>
      split at h
      · simp at h
      next size k hlen =>
      split at h
      · contradiction
      next hfin =>
      split at h
      · contradiction
      next hcontrol =>
      split at h
      · contradiction
      next hsize =>
      split at h
      · simp at h
      next payload hp =>
      simp only [Except.ok.injEq, Option.some.injEq, Prod.mk.injEq] at h
      obtain ⟨rfl, rfl⟩ := h
      obtain ⟨_, rfl⟩ := le_of_payload? hp
      dsimp only
      rw [if_neg hfin, if_neg hcontrol]

theorem of_readAll_eq_cons (h : (readAll wide bs).1 = f :: fs) :
    ∃ n, parse bs wide = .ok (some (f, n)) ∧ (readAll wide (bs.drop n)).1 = fs := by
  match hparse : parse bs wide with
  | .error e => simp [readAll_of_error hparse] at h
  | .ok none => simp [readAll_of_none hparse] at h
  | .ok (some (f', n)) =>
      rw [readAll_of_some hparse, List.cons.injEq] at h
      obtain ⟨rfl, h⟩ := h
      exact ⟨n, rfl, h⟩

/-- Frames within the limit are read, whatever comes behind them. -/
theorem readAll_with_limit {limit : Nat} (h : (readAll wide bs).1 = fs ++ gs)
    (hfs : ∀ f ∈ fs, f.payload.length ≤ limit) :
    ∃ rest, readAll limit bs = (fs ++ (readAll limit rest).1, (readAll limit rest).2) ∧
      (readAll wide rest).1 = gs := by
  induction fs generalizing bs with
  | nil => exact ⟨bs, rfl, h⟩
  | cons f fs ih =>
      obtain ⟨hf, hfs⟩ := List.forall_mem_cons.1 hfs
      obtain ⟨n, hparse, hrest⟩ := of_readAll_eq_cons h
      obtain ⟨rest, hread, hgs⟩ := ih hrest hfs
      have hparse' := parse_with_limit hparse limit
      rw [if_neg (by omega)] at hparse'
      refine ⟨rest, ?_, hgs⟩
      rw [readAll_of_some hparse', hread]
      rfl

/-! ## Fragments -/

/-- The fragments of the message that the first frame begins. -/
def fragments : List Frame → List Frame
  | [] => []
  | f :: fs => f :: fs.filter (·.opcode = .continuation)

/-- How many bytes frames carry. -/
def totalSize (fs : List Frame) : Nat := (fs.flatMap (·.payload)).length

@[simp] theorem totalSize_nil : totalSize [] = 0 := rfl

@[simp] theorem totalSize_cons (f : Frame) (fs : List Frame) :
    totalSize (f :: fs) = f.payload.length + totalSize fs := by
  rw [totalSize, List.flatMap_cons, List.length_append]
  rfl

theorem totalSize_append (fs gs : List Frame) :
    totalSize (fs ++ gs) = totalSize fs + totalSize gs := by
  rw [totalSize, List.flatMap_append, List.length_append]
  rfl

theorem Carries.opcode_eq {op : Opcode} {data : Bytes} (h : Carries op data (f :: fs)) :
    f.opcode = op := by
  cases h <;> rfl

/-- Only the last fragment is final. -/
theorem Carries.fin_eq_false {op : Opcode} {data : Bytes} (h : Carries op data (fs ++ g :: gs)) :
    ∀ f ∈ fs, f.fin = false := by
  induction fs generalizing op data with
  | nil => simp
  | cons f fs ih =>
      generalize hall : f :: fs ++ g :: gs = all at h
      cases h with
      | final _ => simp at hall
      | more hfin hrest =>
          rw [List.cons_append, List.cons.injEq] at hall
          obtain ⟨rfl, rfl⟩ := hall
          exact List.forall_mem_cons.2 ⟨hfin, ih hrest⟩

/-- A fragment stands somewhere among the frames. -/
theorem exists_of_fragments_eq {as bs : List Frame} (h : fragments fs = as ++ g :: bs) :
    ∃ message behind, fs = message ++ g :: behind ∧ fragments message = as ∧
      fragments (message ++ [g]) = as ++ [g] := by
  cases fs with
  | nil => simp [fragments] at h
  | cons f fs =>
      cases as with
      | nil =>
          obtain ⟨rfl, _⟩ := List.cons.inj h
          exact ⟨[], fs, rfl, rfl, rfl⟩
      | cons a as =>
          rw [fragments, List.cons_append, List.cons.injEq] at h
          obtain ⟨rfl, h⟩ := h
          obtain ⟨fs₁, fs₂, rfl, rfl, hg⟩ := List.filter_eq_append_iff.1 h
          obtain ⟨control, behind, rfl, hcontrol, hg, _⟩ := List.filter_eq_cons_iff.1 hg
          have hnone : control.filter (·.opcode = .continuation) = [] := by simpa using hcontrol
          refine ⟨f :: (fs₁ ++ control), behind, by simp, ?_, ?_⟩
          · rw [fragments, List.filter_append, hnone, List.append_nil]
          · simp [fragments, List.filter_append, hnone, hg]

end Frame

/-! ## Messages -/

namespace Reassembler

open WebSocket.Frame (fragments totalSize)

variable {limit : Nat} {begun : Option (Kind × Bytes)} {kind : Kind} {data : Bytes} {f : Frame}
  {fs : List Frame} {m : Message} {r : Reassembler}

/-- A frame changes nothing but the message that has begun. -/
theorem push_snd (r : Reassembler) (f : Frame) :
    (r.push f).2 = { r with partialMessage := (r.push f).2.partialMessage } := by
  cases hf : f.opcode.isControl with
  | true => rw [push_of_control hf]
  | false =>
      match hj : joined r.limit r.partialMessage f with
      | .error e =>
          rcases of_joined_error hj with he | rfl
          · rw [push_of_misplaced hf hj he]
          · rw [push_of_tooLarge hf hj]
      | .ok (kind, data) =>
          rw [push_of_joined hj]
          split <;> rfl

/-- A frame that the reader has measured makes no message too large. -/
theorem length_of_joined (h : joined limit begun f = .ok (kind, data))
    (hf : f.payload.length ≤ limit) : data.length ≤ limit := by
  obtain ⟨_, _, rfl⟩ | ⟨_, _, _, _, hle⟩ := of_joined_ok h
  · exact hf
  · exact hle

/-- The message that has begun is within the limit. -/
def IsWithin (r : Reassembler) : Prop :=
  ∀ kind data, r.partialMessage = some (kind, data) → data.length ≤ r.limit

theorem isWithin_of_none (h : r.partialMessage = none) : r.IsWithin := by
  intro kind data hsome
  simp [h] at hsome

/-- One frame keeps to the limit. -/
theorem IsWithin.push (h : r.IsWithin) (hf : f.payload.length ≤ r.limit) :
    (r.push f).2.IsWithin ∧ ∀ m, (r.push f).1 = .ok (some m) → m.data.length ≤ r.limit := by
  cases hcontrol : f.opcode.isControl with
  | true =>
      rw [push_of_control hcontrol]
      exact ⟨h, by simp⟩
  | false =>
      match hj : joined r.limit r.partialMessage f with
      | .error e =>
          rcases of_joined_error hj with he | rfl
          · rw [push_of_misplaced hcontrol hj he]
            exact ⟨h, by simp⟩
          · rw [push_of_tooLarge hcontrol hj]
            exact ⟨isWithin_of_none rfl, by simp⟩
      | .ok (kind, data) =>
          have hle := length_of_joined hj hf
          rw [push_of_joined hj]
          split
          · refine ⟨isWithin_of_none rfl, fun m hm => ?_⟩
            match hdata : Message.ofData kind data with
            | .error e => simp [hdata, Except.map] at hm
            | .ok m' =>
                obtain rfl : m' = m := by simpa [hdata, Except.map] using hm
                rwa [(Message.of_ofData hdata).2]
          · refine ⟨fun kind' data' hsome => ?_, by simp⟩
            obtain ⟨rfl, rfl⟩ : kind = kind' ∧ data = data' := by simpa using hsome
            exact hle

/-- Frames that the reader has measured keep to the limit. -/
theorem IsWithin.pushAll (h : r.IsWithin) (hfs : ∀ f ∈ fs, f.payload.length ≤ r.limit) :
    (r.pushAll fs).2.limit = r.limit ∧ (r.pushAll fs).2.IsWithin ∧
      ∀ m, .ok (some m) ∈ (r.pushAll fs).1 → m.data.length ≤ r.limit := by
  induction fs generalizing r with
  | nil => exact ⟨rfl, h, by simp [Reassembler.pushAll]⟩
  | cons f fs ih =>
      obtain ⟨hf, hfs⟩ := List.forall_mem_cons.1 hfs
      obtain ⟨hnext, hm⟩ := h.push hf
      have hlimit : (r.push f).2.limit = r.limit := by rw [push_snd]
      rw [← hlimit] at hfs
      obtain ⟨hlimit', hlast, hms⟩ := ih hnext hfs
      rw [hlimit] at hlimit' hms
      refine ⟨hlimit', hlast, fun m hmem => ?_⟩
      rcases List.mem_cons.1 hmem with heq | hmem
      · exact hm m heq.symm
      · exact hms m hmem

/-! ## A message that becomes too large -/

/-- A frame behind the first fragment of a message adds its bytes to it if it is a fragment, and
else changes nothing. -/
theorem push_of_begun (hbegun : r.partialMessage = some (kind, data))
    (hfin : f.opcode = .continuation → f.fin = false)
    (hsize : data.length + totalSize ([f].filter (·.opcode = .continuation)) ≤ r.limit) :
    (∀ n, (r.push f).1 ≠ .error (.tooLarge n)) ∧
      ∃ data', (r.push f).2 = { r with partialMessage := some (kind, data') } ∧
        data'.length = data.length + totalSize ([f].filter (·.opcode = .continuation)) := by
  have hself : r = { r with partialMessage := some (kind, data) } := by rw [← hbegun]
  cases hop : f.opcode with
  | continuation =>
      have hlength : totalSize ([f].filter (·.opcode = .continuation)) = f.payload.length := by
        simp [hop]
      have hj : joined r.limit r.partialMessage f = .ok (kind, data ++ f.payload) := by
        rw [hbegun, joined, if_neg (by simp [hop]),
          if_neg (by rw [List.length_append]; omega)]
      rw [push_of_joined hj, hfin hop, hlength]
      exact ⟨by simp, data ++ f.payload, rfl, List.length_append⟩
  | text | binary =>
      have hj : joined r.limit r.partialMessage f = .error .interleavedMessage := by
        rw [hbegun, joined, if_pos (by simp [hop])]
      rw [push_of_misplaced (by rw [hop]; rfl) hj (.inr rfl)]
      exact ⟨by simp, data, hself, by simp [hop]⟩
  | close | ping | pong =>
      rw [push_of_control (by rw [hop]; rfl)]
      exact ⟨by simp, data, hself, by simp [hop]⟩

/-- The frames behind the first fragment of a message add their bytes to it, as long as it is
within the limit. -/
theorem pushAll_of_begun (hbegun : r.partialMessage = some (kind, data))
    (hfin : ∀ f ∈ fs, f.opcode = .continuation → f.fin = false)
    (hsize : data.length + totalSize (fs.filter (·.opcode = .continuation)) ≤ r.limit) :
    (∀ n, .error (.tooLarge n) ∉ (r.pushAll fs).1) ∧
      ∃ data', (r.pushAll fs).2 = { r with partialMessage := some (kind, data') } ∧
        data'.length = data.length + totalSize (fs.filter (·.opcode = .continuation)) := by
  induction fs generalizing r data with
  | nil =>
      refine ⟨by simp [Reassembler.pushAll], data, ?_, rfl⟩
      rw [← hbegun]
      rfl
  | cons f fs ih =>
      obtain ⟨hf, hfs⟩ := List.forall_mem_cons.1 hfin
      have hsum : totalSize ((f :: fs).filter (·.opcode = .continuation)) =
          totalSize ([f].filter (·.opcode = .continuation)) +
            totalSize (fs.filter (·.opcode = .continuation)) := by
        rw [← List.singleton_append, List.filter_append, Frame.totalSize_append]
      rw [hsum] at hsize ⊢
      obtain ⟨hanswer, data₁, hnext, hdata₁⟩ := push_of_begun hbegun hf (by omega)
      have hbegun₁ : (r.push f).2.partialMessage = some (kind, data₁) := by rw [hnext]
      have hlast := ih hbegun₁ hfs (by rw [hnext]; dsimp only; omega)
      obtain ⟨hanswers, data', hlast, hdata'⟩ := hlast
      refine ⟨fun n hmem => ?_, data', ?_, by omega⟩
      · rcases List.mem_cons.1 hmem with heq | hmem
        · exact hanswer n heq.symm
        · exact hanswers n hmem
      · rw [hnext] at hlast
        rw [Reassembler.pushAll]
        dsimp only
        rw [hnext, hlast]

/-- The first frames of a message, as long as it is within the limit. -/
theorem pushAll_of_unfinished (hop : f.opcode = kind.opcode) (hfin : f.fin = false)
    (hfins : ∀ g ∈ fs, g.opcode = .continuation → g.fin = false)
    (hsize : totalSize (fragments (f :: fs)) ≤ limit) :
    (∀ n, .error (.tooLarge n) ∉ (({ limit } : Reassembler).pushAll (f :: fs)).1) ∧
      ∃ data, (({ limit } : Reassembler).pushAll (f :: fs)).2 =
        { limit, partialMessage := some (kind, data) } ∧
        data.length = totalSize (fragments (f :: fs)) := by
  have hj : joined limit none f = .ok (kind, f.payload) := by
    rw [joined, hop]
    cases kind <;> rfl
  have hpush : ({ limit } : Reassembler).push f =
      (.ok none, { limit, partialMessage := some (kind, f.payload) }) := by
    rw [push_of_joined hj, hfin]
    rfl
  rw [fragments, Frame.totalSize_cons] at hsize ⊢
  rw [Reassembler.pushAll, hpush]
  obtain ⟨hanswers, hlast⟩ := pushAll_of_begun
    (r := { limit, partialMessage := some (kind, f.payload) }) rfl hfins hsize
  exact ⟨fun n => by simpa using hanswers n, hlast⟩

theorem pushAll_snd (r : Reassembler) (fs : List Frame) :
    (r.pushAll fs).2 = { r with partialMessage := (r.pushAll fs).2.partialMessage } := by
  induction fs generalizing r with
  | nil => rfl
  | cons f fs ih =>
      rw [Reassembler.pushAll]
      dsimp only
      rw [ih, push_snd]

/-- A reassembler in the middle of no message is as it was at the start. -/
theorem pushAll_of_idle {limit : Nat} {before : List Frame}
    (h : (({ limit } : Reassembler).pushAll before).2.inProgress = false) :
    (({ limit } : Reassembler).pushAll before).2 = { limit } := by
  rw [pushAll_snd] at h ⊢
  simp only [inProgress, Bool.or_eq_false_iff, Option.isSome_eq_false_iff,
    Option.isNone_iff_eq_none] at h
  rw [h.1]

/-- The frames of a message in front of the first fragment that crosses the limit, and this
fragment. -/
structure Crosses (limit : Nat) (front : List Frame) (g : Frame) : Prop where
  isFragment : fragments (front ++ [g]) = fragments front ++ [g]
  within : totalSize (fragments front) ≤ limit
  beyond : limit < totalSize (fragments (front ++ [g]))

/-- Of the message behind the frames `before`, no fragment in `front` is found too large, and the
fragment `g` is: by the reader if it alone is larger than the limit, and else by the
reassembler, which then is in the middle of no message. -/
structure RefusesAt (limit : Nat) (bs : Bytes) (before front : List Frame) (g : Frame) : Prop where
  earlier : ∀ n, .error (.tooLarge n) ∉
    ((({ limit } : Reassembler).pushAll before).2.pushAll front).1
  byReader : limit < g.payload.length →
    Frame.readAll limit bs = (before ++ front, some (.tooLarge limit))
  byReassembler : g.payload.length ≤ limit →
    before ++ front ++ [g] <+: (Frame.readAll limit bs).1 ∧
    ∃ r, (({ limit } : Reassembler).pushAll (before ++ front)).2.push g =
      (.error (.tooLarge limit), r) ∧ r.inProgress = false

/-- A message that is larger than the limit crosses it first with one of its fragments. -/
theorem exists_crosses (h : limit < totalSize (fragments fs)) :
    ∃ front g behind, fs = front ++ g :: behind ∧ Crosses limit front g := by
  obtain ⟨as, g, bs, hfragments, hwithin, hbeyond⟩ := exists_crossing h
  obtain ⟨front, behind, rfl, rfl, hg⟩ := Frame.exists_of_fragments_eq hfragments
  refine ⟨front, g, behind, rfl, hg, hwithin, ?_⟩
  rw [hg, Frame.totalSize_append, Frame.totalSize_cons]
  exact hbeyond

variable {front behind more : List Frame} {g : Frame}

theorem Crosses.opcode_eq (h : Crosses limit front g) (hfront : front ≠ []) :
    g.opcode = .continuation := by
  obtain ⟨f, front, rfl⟩ := List.exists_cons_of_ne_nil hfront
  have hg := h.isFragment
  simpa [fragments] using hg

theorem Crosses.fragments_eq (h : Crosses limit front g) (behind : List Frame) :
    ∃ others, fragments (front ++ g :: behind) = fragments front ++ g :: others := by
  match front with
  | [] => exact ⟨_, rfl⟩
  | f :: front =>
      have hop := h.opcode_eq (List.cons_ne_nil f front)
      refine ⟨behind.filter (·.opcode = .continuation), ?_⟩
      simp [fragments, hop]

/-- In front of the fragment that crosses the limit nothing is found too large, and the fragments
are collected. -/
theorem Crosses.pushAll_front (h : Crosses limit front g)
    (hcarries : Frame.Carries kind.opcode data (fragments (front ++ g :: behind) ++ more)) :
    (∀ n, .error (.tooLarge n) ∉ (({ limit } : Reassembler).pushAll front).1) ∧
      (front ≠ [] → ∃ data, (({ limit } : Reassembler).pushAll front).2 =
        { limit, partialMessage := some (kind, data) } ∧
        data.length = totalSize (fragments front)) := by
  match front with
  | [] => exact ⟨by simp [Reassembler.pushAll], by simp⟩
  | f :: front =>
      obtain ⟨others, hothers⟩ := h.fragments_eq behind
      have hfins : ∀ f' ∈ fragments (f :: front), f'.fin = false := by
        rw [hothers, List.append_assoc, List.cons_append] at hcarries
        exact hcarries.fin_eq_false
      rw [fragments, List.forall_mem_cons] at hfins
      have hgoes : ∀ f' ∈ front, f'.opcode = .continuation → f'.fin = false := fun f' hf' hop =>
        hfins.2 f' (List.mem_filter.2 ⟨hf', by simpa using hop⟩)
      obtain ⟨hanswers, hlast⟩ :=
        pushAll_of_unfinished hcarries.opcode_eq hfins.1 hgoes h.within
      exact ⟨hanswers, fun _ => hlast⟩

/-- The fragment that crosses the limit is refused. -/
theorem Crosses.refusesAt {wide : Nat} {bs : Bytes} {before : List Frame}
    (h : Crosses limit front g)
    (hread : before ++ (front ++ g :: behind) <+: (Frame.readAll wide bs).1)
    (hidle : (({ limit } : Reassembler).pushAll before).2.inProgress = false)
    (hcarries : Frame.Carries kind.opcode data (fragments (front ++ g :: behind) ++ more))
    (hsmall : ∀ f ∈ before ++ front, f.payload.length ≤ limit) :
    RefusesAt limit bs before front g := by
  have hidle := pushAll_of_idle hidle
  obtain ⟨hearlier, hcollected⟩ := h.pushAll_front hcarries
  obtain ⟨others, hothers⟩ := hread
  rw [← List.append_assoc, List.append_assoc] at hothers
  obtain ⟨rest, hrest, hnext⟩ := Frame.readAll_with_limit hothers.symm hsmall
  obtain ⟨n, hparse, _⟩ := Frame.of_readAll_eq_cons hnext
  have hparse := Frame.parse_with_limit hparse limit
  refine ⟨by rwa [hidle], fun hlarge => ?_, fun hle => ?_⟩
  · rw [if_pos hlarge] at hparse
    rw [hrest, Frame.readAll_of_error hparse, List.append_nil]
  · rw [if_neg (by omega)] at hparse
    constructor
    · rw [hrest, Frame.readAll_of_some hparse, List.prefix_append_right_inj]
      exact List.cons_prefix_cons.2 ⟨rfl, List.nil_prefix⟩
    · have hfront : front ≠ [] := by
        rintro rfl
        have hbeyond := h.beyond
        simp only [List.nil_append, fragments, List.filter_nil, Frame.totalSize_cons,
          Frame.totalSize_nil] at hbeyond
        omega
      obtain ⟨data, hstate, hdata⟩ := hcollected hfront
      have hbeyond := h.beyond
      rw [h.isFragment, Frame.totalSize_append, ← hdata, Frame.totalSize_cons,
        Frame.totalSize_nil] at hbeyond
      have hj : joined limit (some (kind, data)) g = .error (.tooLarge limit) := by
        rw [joined, if_neg (by simp [h.opcode_eq hfront]),
          if_pos (by rw [List.length_append]; omega)]
      rw [pushAll_append, hidle, hstate, push_of_tooLarge (by rw [h.opcode_eq hfront]; rfl) hj]
      exact ⟨_, rfl, rfl⟩

/-- **No message is larger than the limit.** Whatever the bytes, when frames are read with a
limit and given to a reassembler with the same limit, then behind each frame, refused or not,
the message that has begun is within the limit, and so is each message that is completed.

Take any message on the wire, all there or not, with any other frames between its fragments, that
begins when no other is in progress and has come to be larger than the limit. One of its fragments
is the first to cross the limit; and unless a frame in front of it is itself too large to be read,
the message is answered with `tooLarge` at this fragment and not before, by the reader if the
fragment alone is larger than the limit, and else by the reassembler, which is then in the middle
of no message. -/
theorem pushAll_within_limit (limit : Nat) (bs : Bytes) :
    (∀ fs, fs <+: (Frame.readAll limit bs).1 →
      (∀ kind data, (({ limit } : Reassembler).pushAll fs).2.partialMessage = some (kind, data) →
        data.length ≤ limit) ∧
      ∀ m, .ok (some m) ∈ (({ limit } : Reassembler).pushAll fs).1 → m.data.length ≤ limit) ∧
    ∀ (wide : Nat) (before fs more : List Frame) (kind : Kind) (data : Bytes),
      before ++ fs <+: (Frame.readAll wide bs).1 →
      (({ limit } : Reassembler).pushAll before).2.inProgress = false →
      Frame.Carries kind.opcode data (fragments fs ++ more) → limit < totalSize (fragments fs) →
      ∃ front g behind, fs = front ++ g :: behind ∧ Crosses limit front g ∧
        ((∀ f ∈ before ++ front, f.payload.length ≤ limit) →
          RefusesAt limit bs before front g) := by
  constructor
  · intro fs hfs
    have hsizes : ∀ f ∈ fs, f.payload.length ≤ limit := fun f hf =>
      (Frame.isLegal_of_readAll f (hfs.subset hf)).size
    obtain ⟨hlimit, hwithin, hmessages⟩ :=
      (isWithin_of_none (r := { limit }) rfl).pushAll hsizes
    refine ⟨fun kind data hbegun => ?_, hmessages⟩
    have hle := hwithin kind data hbegun
    rwa [hlimit] at hle
  · intro wide before fs more kind data hread hidle hcarries hlarge
    obtain ⟨front, g, behind, rfl, hcrosses⟩ := exists_crosses hlarge
    exact ⟨front, g, behind, rfl, hcrosses, hcrosses.refusesAt hread hidle hcarries⟩

/-- A message in two fragments, with a ping in between, and a third that does not come: the second
fragment crosses the limit, and is not too large alone. -/
theorem pushAll_within_limit_of_two :
    let first : Frame := { fin := false, opcode := .binary, payload := [1, 2] }
    let second : Frame := { fin := false, opcode := .continuation, payload := [3, 4] }
    let third : Frame := { opcode := .continuation, payload := [5] }
    let fs := [first, .ping [9], second]
    let bs := Frame.encodeAll fs
    [] ++ fs <+: (Frame.readAll 100 bs).1 ∧
      (({ limit := 3 } : Reassembler).pushAll []).2.inProgress = false ∧
      Frame.Carries Kind.binary.opcode [1, 2, 3, 4, 5] (fragments fs ++ [third]) ∧
      3 < totalSize (fragments fs) ∧
      ∃ r, (({ limit := 3 } : Reassembler).pushAll [first, .ping [9]]).2.push second =
        (.error (.tooLarge 3), r) ∧ r.inProgress = false := by
  intro first second third fs bs
  have hread : Frame.readAll 100 bs = (fs, none) := by
    have hlegal : ∀ f ∈ fs, f.IsLegal 100 ∧ f.masked = false := by
      simp only [fs, List.forall_mem_cons]
      exact ⟨⟨⟨by decide, by decide⟩, rfl⟩, ⟨⟨by decide, by decide⟩, rfl⟩,
        ⟨⟨by decide, by decide⟩, rfl⟩, by simp⟩
    have hall := Frame.readAll_encodeAll_append (by decide) hlegal []
    have hempty : Frame.readAll 100 [] = ([], none) := Frame.readAll_of_none rfl
    rwa [List.append_nil, hempty, List.append_nil] at hall
  have hfront : [] ++ fs <+: (Frame.readAll 100 bs).1 := by
    rw [hread]
    exact List.prefix_refl fs
  have hcarries : Frame.Carries Kind.binary.opcode [1, 2, 3, 4, 5] (fragments fs ++ [third]) :=
    .more (f := first) rfl (.more (f := second) rfl (.final (f := third) rfl))
  refine ⟨hfront, rfl, hcarries, by decide, ?_⟩
  obtain ⟨front, g, behind, hsplit, hcrosses, hrefuses⟩ := (pushAll_within_limit 3 bs).2 100 [] fs
    [third] .binary [1, 2, 3, 4, 5] hfront rfl hcarries (by decide)
  obtain ⟨rfl, rfl⟩ : front = [first, .ping [9]] ∧ g = second := by
    match front with
    | [] =>
        obtain ⟨rfl, _⟩ := List.cons.inj hsplit
        exact absurd hcrosses.beyond (by decide)
    | [_] =>
        simp only [fs, List.cons_append, List.nil_append, List.cons.injEq] at hsplit
        obtain ⟨rfl, rfl, _⟩ := hsplit
        exact absurd hcrosses.isFragment (by decide)
    | [_, _] =>
        simp only [fs, List.cons_append, List.nil_append, List.cons.injEq] at hsplit
        obtain ⟨rfl, rfl, rfl, _⟩ := hsplit
        exact ⟨rfl, rfl⟩
    | _ :: _ :: _ :: front => simp [fs] at hsplit
  exact ((hrefuses (by decide)).byReassembler (by decide)).2

end Reassembler

end WebSocket

end WebServer
