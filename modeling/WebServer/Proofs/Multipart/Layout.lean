import Mathlib.Data.List.Forall2
import WebServer.Proofs.Multipart.Form

/-!
# WebServer.Proofs.Multipart.Layout

Where a body is cut, whatever it holds. A body that is read is a preamble, the delimiter, a block
for each part with the separator behind it, and the end; each piece ends at the first place where
what it is followed by stands (`Cut.IsOf`). This cut is unique, and a body is read exactly when it
has one whose blocks are parts (`parse_eq_ok_iff`).

But a blank line is looked for without regard to the separators in front of it, and the line end
behind a blank line or a delimiter is not looked at again. So a delimiter can be passed over: where
a header field starts with it, and where the data do.

Main statement: `parse_cuts_at_every_delimiter_iff`.
-/

namespace WebServer

/-! ## Delimiters in a byte string -/

namespace Bytes

variable {needle front hay rest : Bytes} {b : UInt8}

/-- Whether a delimiter behind some bytes is the first one: it stands at no place before. -/
def IsFirstBehind (needle front : Bytes) : Prop :=
  ∀ k < front.length, ¬ needle <+: (front ++ needle).drop k

instance (needle front : Bytes) : Decidable (IsFirstBehind needle front) :=
  inferInstanceAs (Decidable (∀ k < front.length, ¬ needle <+: (front ++ needle).drop k))

/-- A search finds the delimiter that is the first one. -/
theorem indexOf?_append_iff (hn : needle ≠ []) (rest : Bytes) :
    indexOf? needle (front ++ (needle ++ rest)) = some front.length ↔
      IsFirstBehind needle front := by
  rw [indexOf?_eq_some_iff hn, List.drop_left, and_iff_right (List.prefix_append _ _)]
  refine forall₂_congr fun k hk => not_congr ?_
  rw [← List.append_assoc]
  constructor
  · exact prefix_drop_of_append (by rw [List.length_append]; omega)
  · exact prefix_drop_append

theorem IsFirstBehind.not_isInfix (hn : needle ≠ []) (h : IsFirstBehind needle front) :
    ¬ needle <:+: front := by
  rintro ⟨before, behind, rfl⟩
  have hpos := List.length_pos_iff.2 hn
  refine h before.length (by simp; omega) ?_
  simp [List.append_assoc]

/-- Bytes have one first place where a delimiter stands. -/
theorem IsFirstBehind.append_inj {front' rest' : Bytes} (hn : needle ≠ [])
    (h : IsFirstBehind needle front) (h' : IsFirstBehind needle front')
    (heq : front ++ (needle ++ rest) = front' ++ (needle ++ rest')) :
    front = front' ∧ rest = rest' := by
  have hfound := (indexOf?_append_iff hn rest).2 h
  rw [heq, (indexOf?_append_iff hn _).2 h', Option.some.injEq] at hfound
  obtain ⟨hfront, hbehind⟩ := List.append_inj heq hfound.symm
  exact ⟨hfront, List.append_cancel_left hbehind⟩

/-- At how many places a delimiter stands. -/
def occurrences (needle : Bytes) : Bytes → Nat
  | [] => 0
  | b :: bs => (if needle <+: b :: bs then 1 else 0) + occurrences needle bs

theorem occurrences_eq_zero_iff (hn : needle ≠ []) :
    occurrences needle hay = 0 ↔ ¬ needle <:+: hay := by
  induction hay with
  | nil => simp [occurrences, hn]
  | cons b bs ih =>
      rw [occurrences, Nat.add_eq_zero_iff, ih, List.infix_cons_iff, not_or]
      simp

/-- Bytes that hold its first byte nowhere else hold no other delimiter. -/
theorem occurrences_append_of_not_mem (h : b ∉ front) (rest : Bytes) :
    occurrences (b :: needle) (front ++ rest) = occurrences (b :: needle) rest := by
  induction front with
  | nil => rfl
  | cons c front ih =>
      rw [List.mem_cons, not_or] at h
      rw [List.cons_append, occurrences, ih h.2, if_neg (by simp [h.1]), Nat.zero_add]

theorem prefix_append_cons_iff (h : b ∉ needle) :
    needle <+: front ++ b :: rest ↔ needle <+: front := by
  induction front generalizing needle with
  | nil =>
      cases needle with
      | nil => simp
      | cons c needle =>
          rw [List.mem_cons, not_or] at h
          simp [Ne.symm h.1]
  | cons x front ih =>
      cases needle with
      | nil => simp
      | cons c needle =>
          rw [List.mem_cons, not_or] at h
          simp [List.cons_prefix_cons, ih h.2]

/-- No delimiter lies across the place where its first byte stands. -/
theorem occurrences_append_cons (h : b ∉ needle) (front rest : Bytes) :
    occurrences (b :: needle) (front ++ b :: rest) =
      occurrences (b :: needle) front + occurrences (b :: needle) (b :: rest) := by
  induction front with
  | nil => simp [occurrences]
  | cons c front ih =>
      have hbegins : b :: needle <+: c :: (front ++ b :: rest) ↔ b :: needle <+: c :: front := by
        rw [List.cons_prefix_cons, List.cons_prefix_cons, prefix_append_cons_iff h]
      simp only [List.cons_append, occurrences, hbegins, ih, Nat.add_assoc]

/-- A delimiter stands in front of what follows it, and nowhere else in itself. -/
theorem occurrences_self_append (h : b ∉ needle) (rest : Bytes) :
    occurrences (b :: needle) (b :: needle ++ rest) = 1 + occurrences (b :: needle) rest := by
  rw [List.cons_append, occurrences, occurrences_append_of_not_mem h, if_pos]
  exact List.prefix_append (b :: needle) rest

end Bytes

namespace Multipart

open Bytes (IsFirstBehind occurrences)

variable {boundary : String} {body separator delimiter rest : Bytes} {p : Part} {ps : List Part}
  {m : Multipart}

/-! ## How a body is put together -/

/-- A part as it stands in a body: between a delimiter and the next one. -/
structure Block where
  head : Bytes
  data : Bytes
deriving DecidableEq

namespace Block

/-- A line end, the head, a blank line, and the data. -/
def encode (b : Block) : Bytes := crlf ++ (b.head ++ (blankLine ++ b.data))

/-- Whether a block is read as a part. -/
def ReadAs (b : Block) (p : Part) : Prop :=
  (partHeaders b.head >>= fun headers => part headers b.data) = .ok p

instance (b : Block) (p : Part) : Decidable (b.ReadAs p) := inferInstanceAs (Decidable (_ = _))

/-- Whether a block ends where it is cut: at the first blank line, and at the first separator behind
it. -/
structure IsCut (b : Block) (separator : Bytes) : Prop where
  head : IsFirstBehind blankLine b.head
  data : IsFirstBehind separator b.data

instance (b : Block) (separator : Bytes) : Decidable (b.IsCut separator) :=
  decidable_of_iff (IsFirstBehind blankLine b.head ∧ IsFirstBehind separator b.data)
    ⟨fun h => ⟨h.1, h.2⟩, fun h => ⟨h.head, h.data⟩⟩

/-- Whether a delimiter stands inside a block: at the start of a header field, or of the data. -/
def PassesOver (b : Block) (boundary : String) : Prop :=
  separatorOf boundary <:+: crlf ++ b.head ∨ delimiterOf boundary <+: b.data

instance (b : Block) (boundary : String) : Decidable (b.PassesOver boundary) :=
  inferInstanceAs (Decidable (_ ∨ _))

end Block

/-- Blocks with the separator behind each. -/
def between (separator : Bytes) (blocks : List Block) : Bytes :=
  blocks.flatMap fun b => b.encode ++ separator

theorem between_cons (separator : Bytes) (b : Block) (blocks : List Block) :
    between separator (b :: blocks) = b.encode ++ (separator ++ between separator blocks) := by
  simp [between]

/-- The pieces of a body. -/
structure Cut where
  preamble : Bytes
  blocks : List Block
  epilogue : Bytes

namespace Cut

/-- The preamble, the delimiter, the blocks with the separator behind each, two dashes, and the
epilogue. -/
def encode (c : Cut) (boundary : String) : Bytes :=
  c.preamble ++ (delimiterOf boundary ++
    (between (separatorOf boundary) c.blocks ++ (45 :: 45 :: c.epilogue)))

/-- The pieces of a body that is cut at the first delimiter, and each block behind it at the first
blank line and the first separator. -/
structure IsOf (c : Cut) (boundary : String) (body : Bytes) : Prop where
  encode : c.encode boundary = body
  preamble : IsFirstBehind (delimiterOf boundary) c.preamble
  blocks : ∀ b ∈ c.blocks, b.IsCut (separatorOf boundary)

end Cut

/-! ## Cutting -/

/-- Bytes are cut where the delimiter stands first. -/
theorem cutAt_append {front : Bytes} (hn : delimiter ≠ []) (h : IsFirstBehind delimiter front)
    (rest : Bytes) : cutAt delimiter (front ++ (delimiter ++ rest)) = some (front, rest) :=
  cutAt_of_indexOf? ((Bytes.indexOf?_append_iff hn rest).2 h)

/-- A cut is where the delimiter stands first. -/
theorem of_cutAt {front : Bytes} (h : cutAt delimiter body = some (front, rest)) :
    body = front ++ (delimiter ++ rest) ∧ IsFirstBehind delimiter front := by
  obtain ⟨k, hk, hcut⟩ := Option.map_eq_some_iff.1 h
  obtain ⟨rfl, rfl⟩ := Prod.mk.inj hcut
  have hbody := Bytes.eq_append_of_indexOf? hk
  have hlength : (body.take k).length = k := by
    have := Bytes.add_length_le_of_indexOf? hk
    simp
    omega
  refine ⟨hbody, ?_⟩
  rw [← Bytes.indexOf?_append_iff (Bytes.ne_nil_of_indexOf? hk), ← hbody, hk, hlength]

theorem blankLine_ne_nil : blankLine ≠ [] := by simp [blankLine]

theorem exists_of_map_eq_ok {ε α β : Type} {f : α → β} {x : Except ε α} {y : β}
    (h : x.map f = .ok y) : ∃ a, x = .ok a ∧ f a = y := by
  cases x with
  | error e => contradiction
  | ok a => exact ⟨a, rfl, Except.ok.inj h⟩

/-- What one step comes to: the parts end where two dashes stand, or a block that is read as a part
is taken off the front. -/
theorem partsAfter_eq_ok_iff (hs : separator ≠ []) :
    partsAfter separator rest = .ok ps ↔
      (ps = [] ∧ ∃ epilogue, rest = 45 :: 45 :: epilogue) ∨
        ∃ (b : Block) (next : Bytes) (p : Part) (ps' : List Part), ps = p :: ps' ∧
          rest = b.encode ++ (separator ++ next) ∧ b.IsCut separator ∧ b.ReadAs p ∧
          partsAfter separator next = .ok ps' := by
  constructor
  · intro h
    unfold partsAfter at h
    split at h
    · exact .inl ⟨(Except.ok.inj h).symm, _, rfl⟩
    · split at h
      · contradiction
      · next raw content hhead =>
          split at h
          · contradiction
          · next headers hheaders =>
              split at h
              · contradiction
              · next data next hdata =>
                  split at h
                  · contradiction
                  · next p hpart =>
                      obtain ⟨ps', hnext, rfl⟩ := exists_of_map_eq_ok h
                      obtain ⟨rfl, hfirst⟩ := of_cutAt hhead
                      obtain ⟨rfl, hfirst'⟩ := of_cutAt hdata
                      exact .inr ⟨⟨raw, data⟩, next, p, ps', rfl, by simp [Block.encode, crlf],
                        ⟨hfirst, hfirst'⟩, by simpa [Block.ReadAs, hheaders, bind, Except.bind],
                        hnext⟩
    · contradiction
  · rintro (⟨rfl, epilogue, rfl⟩ | ⟨⟨raw, data⟩, next, p, ps', rfl, rfl, hcut, hread, hnext⟩)
    · rw [partsAfter]
    · have hhead := cutAt_append blankLine_ne_nil hcut.head (data ++ (separator ++ next))
      have hdata := cutAt_append hs hcut.data next
      have hblock : (Block.mk raw data).encode ++ (separator ++ next) =
          13 :: 10 :: (raw ++ (blankLine ++ (data ++ (separator ++ next)))) := by
        simp [Block.encode, crlf]
      -- both cuts are where the pieces end, so all other cases are out
      rw [hblock, partsAfter]
      split
      · next hnone => simp [hhead] at hnone
      · next hsome =>
          obtain ⟨rfl, rfl⟩ := Prod.mk.inj (Option.some.inj (hhead.symm.trans hsome))
          cases hheaders : partHeaders raw with
          | error e => simp [Block.ReadAs, hheaders, bind, Except.bind] at hread
          | ok headers =>
              have hpart : part headers data = .ok p := by
                simpa [Block.ReadAs, hheaders, bind, Except.bind] using hread
              dsimp only
              split
              · next hnone => simp [hdata] at hnone
              · next hsome' =>
                  obtain ⟨rfl, rfl⟩ := Prod.mk.inj (Option.some.inj (hdata.symm.trans hsome'))
                  rw [hpart, hnext]
                  rfl

/-- The parts that follow a delimiter are those that the blocks behind it are read as. -/
theorem partsAfter_eq_ok_iff_exists_blocks (hs : separator ≠ []) :
    partsAfter separator rest = .ok ps ↔
      ∃ blocks epilogue, rest = between separator blocks ++ (45 :: 45 :: epilogue) ∧
        (∀ b ∈ blocks, b.IsCut separator) ∧ List.Forall₂ Block.ReadAs blocks ps := by
  induction ps generalizing rest with
  | nil =>
      rw [partsAfter_eq_ok_iff hs]
      constructor
      · rintro (⟨-, epilogue, rfl⟩ | ⟨_, _, _, _, h, _⟩)
        · exact ⟨[], epilogue, rfl, by simp, .nil⟩
        · contradiction
      · rintro ⟨blocks, epilogue, rfl, -, hread⟩
        cases hread
        exact .inl ⟨rfl, epilogue, rfl⟩
  | cons p ps ih =>
      rw [partsAfter_eq_ok_iff hs]
      constructor
      · rintro (⟨h, _⟩ | ⟨b, next, p, ps, h, rfl, hcut, hread, hnext⟩)
        · contradiction
        · obtain ⟨rfl, rfl⟩ := List.cons.inj h
          obtain ⟨blocks, epilogue, rfl, hcuts, hreads⟩ := ih.1 hnext
          refine ⟨b :: blocks, epilogue, by simp [between], ?_, .cons hread hreads⟩
          exact List.forall_mem_cons.2 ⟨hcut, hcuts⟩
      · rintro ⟨blocks, epilogue, rfl, hcuts, hreads⟩
        obtain _ | ⟨hread, hreads⟩ := hreads
        obtain ⟨hcut, hcuts⟩ := List.forall_mem_cons.1 hcuts
        exact .inr ⟨_, _, p, ps, rfl, by simp [between], hcut, hread,
          ih.2 ⟨_, epilogue, rfl, hcuts, hreads⟩⟩

/-- **A body is read exactly when it can be cut into parts**, and as these parts. -/
theorem parse_eq_ok_iff :
    parse body boundary = .ok m ↔
      boundaryFits boundary = true ∧
        ∃ c : Cut, c.IsOf boundary body ∧ List.Forall₂ Block.ReadAs c.blocks m.parts := by
  have hd := delimiterOf_ne_nil boundary
  have hs := separatorOf_ne_nil boundary
  unfold parse
  by_cases hfits : boundaryFits boundary = true
  · rw [if_pos hfits, and_iff_right hfits]
    constructor
    · intro h
      split at h
      · contradiction
      · next preamble rest hcut =>
          obtain ⟨ps, hps, rfl⟩ := exists_of_map_eq_ok h
          obtain ⟨rfl, hfirst⟩ := of_cutAt hcut
          obtain ⟨blocks, epilogue, rfl, hcuts, hreads⟩ :=
            (partsAfter_eq_ok_iff_exists_blocks hs).1 hps
          exact ⟨⟨preamble, blocks, epilogue⟩, ⟨rfl, hfirst, hcuts⟩, hreads⟩
    · rintro ⟨⟨preamble, blocks, epilogue⟩, ⟨rfl, hfirst, hcuts⟩, hreads⟩
      have hps := (partsAfter_eq_ok_iff_exists_blocks hs).2 ⟨blocks, epilogue, rfl, hcuts, hreads⟩
      rw [Cut.encode, cutAt_append hd hfirst]
      dsimp only
      rw [hps]
      rfl
  · simp [hfits]

/-! ## One cut only -/

/-- Blocks that are cut where they end are the only ones in front of two dashes. -/
theorem eq_of_between_append_eq (hs : separator ≠ []) {blocks blocks' : List Block}
    {epilogue epilogue' : Bytes} (hcuts : ∀ b ∈ blocks, b.IsCut separator)
    (hcuts' : ∀ b ∈ blocks', b.IsCut separator)
    (h : between separator blocks ++ (45 :: 45 :: epilogue) =
      between separator blocks' ++ (45 :: 45 :: epilogue')) :
    blocks = blocks' ∧ epilogue = epilogue' := by
  induction blocks generalizing blocks' with
  | nil =>
      cases blocks' with
      | nil => simpa [between] using h
      | cons b' blocks' => simp [between, Block.encode, crlf] at h
  | cons b blocks ih =>
      cases blocks' with
      | nil => simp [between, Block.encode, crlf] at h
      | cons b' blocks' =>
          obtain ⟨hcut, hcuts⟩ := List.forall_mem_cons.1 hcuts
          obtain ⟨hcut', hcuts'⟩ := List.forall_mem_cons.1 hcuts'
          simp only [between_cons, Block.encode, List.append_assoc,
            List.append_cancel_left_eq] at h
          obtain ⟨hhead, hrest⟩ := hcut.head.append_inj blankLine_ne_nil hcut'.head h
          obtain ⟨hdata, hnext⟩ := hcut.data.append_inj hs hcut'.data hrest
          obtain ⟨rfl, hepilogue⟩ := ih hcuts hcuts' hnext
          refine ⟨?_, hepilogue⟩
          cases b
          cases b'
          simp_all

theorem Cut.IsOf.unique {c c' : Cut} (h : c.IsOf boundary body) (h' : c'.IsOf boundary body) :
    c' = c := by
  obtain ⟨hpreamble, hrest⟩ := h'.preamble.append_inj (delimiterOf_ne_nil boundary) h.preamble
    (h'.encode.trans h.encode.symm)
  obtain ⟨hblocks, hepilogue⟩ :=
    eq_of_between_append_eq (separatorOf_ne_nil boundary) h'.blocks h.blocks hrest
  cases c
  cases c'
  simp_all

/-! ## Delimiters inside a part -/

theorem not_mem_of_cr (hcr : '\r' ∉ boundary.toList) :
    (13 : UInt8) ∉ 10 :: delimiterOf boundary := by
  rw [List.mem_cons, not_or]
  exact ⟨by decide, not_mem_delimiterOf (c := '\r') (by decide) rfl (by decide) hcr⟩

namespace Block

/-- How many delimiters stand inside a block. -/
def passed (b : Block) (boundary : String) : Nat :=
  occurrences (separatorOf boundary) (crlf ++ b.head) +
    if delimiterOf boundary <+: b.data then 1 else 0

theorem passed_eq_zero_iff {b : Block} : b.passed boundary = 0 ↔ ¬ b.PassesOver boundary := by
  rw [passed, PassesOver, not_or, Nat.add_eq_zero_iff,
    Bytes.occurrences_eq_zero_iff (separatorOf_ne_nil boundary)]
  simp

/-- Across a blank line stands no separator but the one that starts with its second line end. -/
theorem occurrences_blankLine_append (hcr : '\r' ∉ boundary.toList) (rest : Bytes) :
    occurrences (separatorOf boundary) (blankLine ++ rest) =
      (if delimiterOf boundary <+: rest then 1 else 0) +
        occurrences (separatorOf boundary) rest := by
  obtain ⟨d, ds, hd⟩ := List.exists_cons_of_ne_nil (delimiterOf_ne_nil boundary)
  have hne : d ≠ 13 := by
    rintro rfl
    exact not_mem_of_cr hcr (by simp [hd])
  have hsep : separatorOf boundary = 13 :: 10 :: delimiterOf boundary := rfl
  simp [blankLine, occurrences, hsep, hd, hne]

/-- The separators in a block and behind it: the one behind it, and those that are passed over. -/
theorem occurrences_encode_append (hcr : '\r' ∉ boundary.toList) {b : Block}
    (hdata : ¬ separatorOf boundary <:+: b.data) (rest : Bytes) :
    occurrences (separatorOf boundary) (b.encode ++ (separatorOf boundary ++ rest)) =
      b.passed boundary + (1 + occurrences (separatorOf boundary) rest) := by
  have hb := not_mem_of_cr hcr
  have hfront : ∀ front rest,
      occurrences (separatorOf boundary) (front ++ (separatorOf boundary ++ rest)) =
        occurrences (separatorOf boundary) front +
          (1 + occurrences (separatorOf boundary) rest) := by
    intro front rest
    have hself : occurrences (separatorOf boundary) (separatorOf boundary ++ rest) =
        1 + occurrences (separatorOf boundary) rest := Bytes.occurrences_self_append hb rest
    rw [← hself]
    exact Bytes.occurrences_append_cons hb _ _
  have hhead : ∀ rest, occurrences (separatorOf boundary) (crlf ++ b.head ++ (blankLine ++ rest)) =
      occurrences (separatorOf boundary) (crlf ++ b.head) +
        occurrences (separatorOf boundary) (blankLine ++ rest) :=
    fun rest => Bytes.occurrences_append_cons hb _ _
  have hnone : occurrences (separatorOf boundary) b.data = 0 :=
    (Bytes.occurrences_eq_zero_iff (separatorOf_ne_nil boundary)).2 hdata
  have hbegins : delimiterOf boundary <+: b.data ++ (separatorOf boundary ++ rest) ↔
      delimiterOf boundary <+: b.data :=
    Bytes.prefix_append_cons_iff (List.not_mem_of_not_mem_cons hb)
  have hbytes : b.encode ++ (separatorOf boundary ++ rest) =
      crlf ++ b.head ++ (blankLine ++ (b.data ++ (separatorOf boundary ++ rest))) := by
    simp [encode]
  rw [hbytes, hhead, occurrences_blankLine_append hcr, hfront, hnone, passed]
  simp only [hbegins]
  omega

end Block

/-- There are as many separators in front of the end as blocks, one behind each, exactly when none is
passed over. -/
theorem occurrences_between_eq_length_iff (hcr : '\r' ∉ boundary.toList) {blocks : List Block}
    (hdata : ∀ b ∈ blocks, ¬ separatorOf boundary <:+: b.data) :
    blocks.length ≤ occurrences (separatorOf boundary) (between (separatorOf boundary) blocks) ∧
      (blocks.length = occurrences (separatorOf boundary) (between (separatorOf boundary) blocks) ↔
        ∀ b ∈ blocks, b.passed boundary = 0) := by
  induction blocks with
  | nil => simp [between, occurrences]
  | cons b blocks ih =>
      obtain ⟨hb, hblocks⟩ := List.forall_mem_cons.1 hdata
      obtain ⟨hle, heq⟩ := ih hblocks
      rw [between_cons, Block.occurrences_encode_append hcr hb, List.forall_mem_cons, ← heq,
        List.length_cons]
      -- what one block has too many, the others cannot have too few
      omega

/-- **Which delimiters end a part.** A body that is read, with a boundary on one line, is a preamble
without the delimiter, the delimiter, a block for each part with the separator behind it, and the
end; the blocks are read as the parts, in their order, there is no other way to cut the body at the
first places, and no data hold the separator. But every delimiter ends a part, so that there are as
many parts as separators and no head holds one, exactly when no delimiter stands inside a block: no
header field and no data start with it. -/
theorem parse_cuts_at_every_delimiter_iff (hcr : '\r' ∉ boundary.toList)
    (h : parse body boundary = .ok m) :
    ∃ c : Cut, c.IsOf boundary body ∧ (∀ c' : Cut, c'.IsOf boundary body → c' = c) ∧
      List.Forall₂ Block.ReadAs c.blocks m.parts ∧
      ¬ delimiterOf boundary <:+: c.preamble ∧
      (∀ b ∈ c.blocks, ¬ separatorOf boundary <:+: b.data) ∧
      ((m.parts.length =
            occurrences (separatorOf boundary) (between (separatorOf boundary) c.blocks) ∧
          ∀ b ∈ c.blocks, ¬ separatorOf boundary <:+: b.head) ↔
        ∀ b ∈ c.blocks, ¬ b.PassesOver boundary) := by
  obtain ⟨-, c, hcut, hread⟩ := parse_eq_ok_iff.1 h
  have hdata : ∀ b ∈ c.blocks, ¬ separatorOf boundary <:+: b.data := fun b hb =>
    (hcut.blocks b hb).data.not_isInfix (separatorOf_ne_nil boundary)
  refine ⟨c, hcut, fun c' hcut' => hcut.unique hcut', hread,
    hcut.preamble.not_isInfix (delimiterOf_ne_nil boundary), hdata, ?_⟩
  rw [← hread.length_eq, (occurrences_between_eq_length_iff hcr hdata).2]
  simp only [← Block.passed_eq_zero_iff, and_iff_left_iff_imp]
  intro hnone b hb hhead
  exact Block.passed_eq_zero_iff.1 (hnone b hb)
    (.inl (hhead.trans (List.suffix_append crlf b.head).isInfix))

/-- With the boundary `a:b`, a line that starts with the delimiter is read as a header field, so
that the blank line which is missing behind the first part is found in the second one. -/
theorem parse_cuts_at_every_delimiter_iff_of_colon :
    let name := utf8 "Content-Disposition: form-data; name=\"x\""
    let separator := separatorOf "a:b"
    let crossed : Cut :=
      { preamble := [], epilogue := []
        blocks := [⟨name ++ utf8 "\r\n--a:b\r\nContent-Type: text/plain", utf8 "v"⟩] }
    let plain : Cut :=
      { preamble := utf8 "see", epilogue := utf8 "\r\n--a:b"
        blocks := [⟨name, []⟩, ⟨name, utf8 "v"⟩] }
    let typed : Part := ⟨"x", none, some "text/plain", utf8 "v"⟩
    let parts : List Part := [⟨"x", none, none, []⟩, ⟨"x", none, none, utf8 "v"⟩]
    '\r' ∉ "a:b".toList ∧
      (parse (crossed.encode "a:b") "a:b" = .ok ⟨[typed]⟩ ∧
        ¬ (1 = occurrences separator (between separator crossed.blocks) ∧
          ∀ b ∈ crossed.blocks, ¬ separator <:+: b.head)) ∧
      parse (plain.encode "a:b") "a:b" = .ok ⟨parts⟩ ∧
        2 = occurrences separator (between separator plain.blocks) ∧
          ∀ b ∈ plain.blocks, ¬ separator <:+: b.head := by
  intro name separator crossed plain typed parts
  have hcr : '\r' ∉ "a:b".toList := by decide
  have hcrossed : crossed.IsOf "a:b" (crossed.encode "a:b") :=
    ⟨rfl, by decide, by decide +kernel⟩
  have hplain : plain.IsOf "a:b" (plain.encode "a:b") := ⟨rfl, by decide, by decide +kernel⟩
  have hread : parse (crossed.encode "a:b") "a:b" = .ok ⟨[typed]⟩ :=
    parse_eq_ok_iff.2 ⟨by decide, crossed, hcrossed, .cons (by decide +kernel) .nil⟩
  have hread' : parse (plain.encode "a:b") "a:b" = .ok ⟨parts⟩ :=
    parse_eq_ok_iff.2 ⟨by decide, plain, hplain,
      .cons (by decide +kernel) (.cons (by decide +kernel) .nil)⟩
  obtain ⟨c, -, honly, -, -, -, hcount⟩ := parse_cuts_at_every_delimiter_iff hcr hread
  obtain ⟨c', -, honly', -, -, -, hcount'⟩ := parse_cuts_at_every_delimiter_iff hcr hread'
  rw [← honly _ hcrossed] at hcount
  rw [← honly' _ hplain] at hcount'
  refine ⟨hcr, ⟨hread, ?_⟩, hread', hcount'.2 (by decide +kernel)⟩
  exact mt hcount.1 (by decide +kernel)

end Multipart

end WebServer
