import WebServer.WebSocket.Frame

/-!
# WebServer.Proofs.WebSocket.Frame

The frame codec. What is read of a buffer does not depend on what follows it
(`parse_append_of_some`, `parse_append_of_error`), and a frame within its limits that is
written is read back, whatever follows (`parse_encode_append`); of a frame that is not all
there nothing is read (`parse_of_prefix_encode`). `readAll` reads a whole byte string.
-/

namespace WebServer

namespace WebSocket

namespace Frame

variable {buf bs more : Bytes} {limit short n k : Nat} {masked : Bool} {payload : Bytes}
  {f : Frame} {e : FrameError} {key : Option MaskKey}

/-! ## Reading when bytes arrive -/

theorem lengthField_append (h : lengthField short bs = some (n, k)) (more : Bytes) :
    lengthField short (bs ++ more) = some (n, k) := by
  have htake : ∀ m, m ≤ bs.length → (bs ++ more).take m = bs.take m := fun m hm =>
    List.take_append_of_le_length hm
  unfold lengthField at h ⊢
  dsimp only at h ⊢
  split at h
  · next hs =>
      rw [if_pos hs]
      split at h
      · contradiction
      · rw [htake 2 (by simp only [List.length_take] at *; omega)]
        rwa [if_neg ‹_›]
  · next hs =>
      rw [if_neg hs]
      split at h
      · next hs' =>
          rw [if_pos hs']
          split at h
          · contradiction
          · rw [htake 8 (by simp only [List.length_take] at *; omega)]
            rwa [if_neg ‹_›]
      · next hs' =>
          rw [if_neg hs']
          exact h

/-- A length takes bytes that are there. -/
theorem le_of_lengthField (h : lengthField short bs = some (n, k)) : k ≤ bs.length := by
  unfold lengthField at h
  dsimp only at h
  split at h
  · split at h
    · contradiction
    · simp only [List.length_take, Option.some.injEq, Prod.mk.injEq] at *
      omega
  · split at h
    · split at h
      · contradiction
      · simp only [List.length_take, Option.some.injEq, Prod.mk.injEq] at *
        omega
    · simp only [Option.some.injEq, Prod.mk.injEq] at h
      omega

/-- The bytes of a masking key. -/
def keySize (masked : Bool) : Nat := if masked then 4 else 0

/-- A payload that is read is there with its key, and has its length. -/
theorem le_of_payload? (h : payload? masked n bs = some payload) :
    keySize masked + n ≤ bs.length ∧ payload.length = n := by
  unfold payload? at h
  dsimp only at h
  split at h
  · next hm =>
      split at h
      · next a b c d rest =>
          split at h
          · contradiction
          · obtain rfl := Option.some.inj h
            simp only [keySize, hm, if_true, MaskKey.apply, List.length_mapIdx, List.length_take,
              List.length_cons] at *
            omega
      · contradiction
  · next hm =>
      split at h
      · contradiction
      · obtain rfl := Option.some.inj h
        simp only [keySize, List.length_take] at *
        rw [if_neg hm]
        omega

theorem payload?_append (h : payload? masked n bs = some payload) (more : Bytes) :
    payload? masked n (bs ++ more) = some payload := by
  have hle := (le_of_payload? h).1
  unfold payload? at h ⊢
  dsimp only at h ⊢
  split at h
  · next hm =>
      rw [if_pos hm]
      split at h
      · next a b c d rest =>
          rw [keySize, if_pos hm] at hle
          simp only [List.length_cons] at hle
          simp only [List.cons_append]
          rwa [List.take_append_of_le_length (by omega)]
      · contradiction
  · next hm =>
      rw [if_neg hm]
      rw [keySize, if_neg hm, Nat.zero_add] at hle
      rwa [List.take_append_of_le_length hle]

/-- What is decided about a buffer stays so when bytes arrive. -/
theorem parse_append (h : parse buf limit ≠ .ok none) (more : Bytes) :
    parse (buf ++ more) limit = parse buf limit := by
  match buf, h with
  | [], h | [_], h => exact absurd rfl h
  | b0 :: b1 :: rest, h =>
      simp only [List.cons_append, parse] at h ⊢
      split
      · rfl
      · next hr =>
          rw [if_neg hr] at h
          cases hop : Opcode.ofCode? (b0 &&& 0x0F) with
          | none => rfl
          | some opcode =>
              simp only [hop] at h ⊢
              cases hlen : lengthField (b1 &&& 0x7F).toNat rest with
              | none =>
                  rw [hlen] at h
                  exact absurd rfl h
              | some field =>
                  obtain ⟨n, k⟩ := field
                  simp only [hlen] at h
                  simp only [lengthField_append hlen,
                    List.drop_append_of_le_length (le_of_lengthField hlen)]
                  split
                  · rfl
                  · split
                    · rfl
                    · split
                      · rfl
                      · next h1 h2 h3 =>
                          rw [if_neg h1, if_neg h2, if_neg h3] at h
                          cases hp : payload? (decide (b1 &&& 0x80 ≠ 0)) n (rest.drop k) with
                          | none =>
                              rw [hp] at h
                              exact absurd rfl h
                          | some payload => rw [payload?_append hp]

theorem parse_append_of_some (h : parse buf limit = .ok (some (f, n))) (more : Bytes) :
    parse (buf ++ more) limit = .ok (some (f, n)) :=
  (parse_append (by simp [h]) more).trans h

theorem parse_append_of_error (h : parse buf limit = .error e) (more : Bytes) :
    parse (buf ++ more) limit = .error e :=
  (parse_append (by simp [h]) more).trans h

/-- A frame that may be sent: its payload is within a limit, and if it controls the
connection it is whole and short. -/
structure IsLegal (limit : Nat) (f : Frame) : Prop where
  size : f.payload.length ≤ limit
  control : f.opcode.isControl = true → f.fin = true ∧ f.payload.length ≤ maxControlPayload

/-- What is known of a frame that is read: how many bytes it takes, and that it is legal. -/
structure IsRead (limit : Nat) (buf : Bytes) (f : Frame) (n : Nat) : Prop where
  two_le : 2 ≤ n
  le_length : n ≤ buf.length
  legal : f.IsLegal limit

theorem isRead_of_parse (h : parse buf limit = .ok (some (f, n))) : IsRead limit buf f n := by
  match buf, h with
  | [], h | [_], h => simp [parse] at h
  | b0 :: b1 :: rest, h =>
      simp only [parse] at h
      split at h
      · contradiction
      · split at h
        · contradiction
        · split at h
          · simp at h
          · next n' k hlen =>
              split at h
              · contradiction
              · split at h
                · contradiction
                · split at h
                  · contradiction
                  · split at h
                    · simp at h
                    · next hfin hcontrol hlimit _ payload hp =>
                        simp only [Except.ok.injEq, Option.some.injEq, Prod.mk.injEq] at h
                        obtain ⟨rfl, rfl⟩ := h
                        obtain ⟨hle, hsize⟩ := le_of_payload? hp
                        have hk := le_of_lengthField hlen
                        rw [List.length_drop, keySize] at hle
                        simp only [decide_eq_true_eq] at hle
                        refine ⟨by omega, ?_, ?_, fun hc => ⟨?_, ?_⟩⟩
                        · rw [List.length_cons, List.length_cons]
                          omega
                        · dsimp only
                          omega
                        · dsimp only at hc ⊢
                          rw [hc, Bool.true_and, Bool.not_eq_true, Bool.not_eq_false'] at hfin
                          exact hfin
                        · dsimp only at hc ⊢
                          rw [hc, Bool.true_and, decide_eq_true_eq] at hcontrol
                          omega

/-! ## Numbers on the wire -/

theorem ofBigEndian_bigEndian16 (h : n < 0x10000) : ofBigEndian (bigEndian16 n) = n := by
  simp only [ofBigEndian, bigEndian16, List.foldl_cons, List.foldl_nil, UInt8.toNat_ofNat']
  omega

theorem ofBigEndian_bigEndian64 (h : n < UInt64.size) : ofBigEndian (bigEndian64 n) = n := by
  have hrange : List.range 8 = [0, 1, 2, 3, 4, 5, 6, 7] := rfl
  have hbyte : ∀ m, m % 256 % 2 ^ 8 = m % 256 := fun m => by omega
  have htop : 0 * 256 + n / 2 ^ (8 * 7) % 256 = n / 2 ^ (8 * 7) := by
    have hn : n < 18446744073709551616 := h
    omega
  have hstep : ∀ k, n / 2 ^ (8 * (k + 1)) * 256 + n / 2 ^ (8 * k) % 256 = n / 2 ^ (8 * k) := by
    intro k
    rw [Nat.mul_add 8 k 1, Nat.pow_add, ← Nat.div_div_eq_div_mul]
    exact Nat.div_add_mod' _ _
  simp only [ofBigEndian, bigEndian64, hrange, List.map_cons, List.map_nil, List.foldl_cons,
    List.foldl_nil, UInt8.toNat_ofNat', Nat.shiftRight_eq_div_pow, hbyte]
  rw [htop, hstep 6, hstep 5, hstep 4, hstep 3, hstep 2, hstep 1, hstep 0]
  exact Nat.div_one n

/-- The bit that announces a masking key. -/
def maskBit (masked : Bool) : UInt8 := if masked then 0x80 else 0

theorem decode_short : ∀ masked : Bool, ∀ n < 128,
    ((maskBit masked ||| UInt8.ofNat n) &&& 0x7F).toNat = n ∧
      decide ((maskBit masked ||| UInt8.ofNat n) &&& 0x80 ≠ 0) = masked := by
  decide +kernel

/-- The length of a payload is read back, whatever follows it. -/
theorem lengthField_lengthBytes (masked : Bool) (h : n < UInt64.size) (rest : Bytes) :
    ∃ b1 ext, lengthBytes (maskBit masked) n = b1 :: ext ∧
      decide (b1 &&& 0x80 ≠ 0) = masked ∧
      lengthField (b1 &&& 0x7F).toNat (ext ++ rest) = some (n, ext.length) := by
  unfold lengthBytes
  split
  · next hn =>
      obtain ⟨hlen, hmask⟩ := decode_short masked n (by omega)
      refine ⟨_, [], rfl, hmask, ?_⟩
      rw [hlen, lengthField, if_neg (by omega), if_neg (by omega)]
      rfl
  · split
    · next hn =>
        obtain ⟨hlen, hmask⟩ := decode_short masked 126 (by omega)
        refine ⟨_, bigEndian16 n, rfl, hmask, ?_⟩
        have htake : (bigEndian16 n ++ rest).take 2 = bigEndian16 n := rfl
        have hlen' : ((maskBit masked ||| 126) &&& 0x7F).toNat = 126 := hlen
        rw [hlen', lengthField, if_pos rfl]
        dsimp only
        rw [htake, if_neg (by simp [bigEndian16]), ofBigEndian_bigEndian16 hn]
        rfl
    · obtain ⟨hlen, hmask⟩ := decode_short masked 127 (by omega)
      refine ⟨_, bigEndian64 n, rfl, hmask, ?_⟩
      have htake : (bigEndian64 n ++ rest).take 8 = bigEndian64 n := rfl
      have hlen' : ((maskBit masked ||| 127) &&& 0x7F).toNat = 127 := hlen
      rw [hlen', lengthField, if_neg (by decide), if_pos rfl]
      dsimp only
      rw [htake, if_neg (by simp [bigEndian64]), ofBigEndian_bigEndian64 h]
      simp [bigEndian64]

/-! ## Writing and reading back -/

/-- The payload as it stands on the wire, with its key in front. -/
def wirePayload (f : Frame) : Option MaskKey → Bytes
  | none => f.payload
  | some k => k.bytes ++ k.apply f.payload

/-- The first byte of a frame. -/
def firstByte (f : Frame) : UInt8 := (if f.fin then 0x80 else 0) ||| f.opcode.code

theorem encode_eq (f : Frame) (key : Option MaskKey) :
    f.encode key = f.firstByte :: lengthBytes (maskBit key.isSome) f.payload.length ++
      f.wirePayload key := by
  cases key with
  | none => rfl
  | some k =>
      simp only [encode, wirePayload, List.cons_append, List.append_assoc]
      rfl

theorem decode_firstByte (f : Frame) :
    f.firstByte &&& 0x70 = 0 ∧ Opcode.ofCode? (f.firstByte &&& 0x0F) = some f.opcode ∧
      decide (f.firstByte &&& 0x80 ≠ 0) = f.fin := by
  unfold firstByte
  cases f.fin <;> cases f.opcode <;> decide

theorem length_wirePayload (f : Frame) (key : Option MaskKey) :
    (f.wirePayload key).length = keySize key.isSome + f.payload.length := by
  cases key with
  | none => simp [wirePayload, keySize]
  | some k =>
      simp only [wirePayload, keySize, MaskKey.bytes, MaskKey.apply, List.length_append,
        List.length_cons, List.length_nil, List.length_mapIdx, Option.isSome_some, if_true]

theorem payload?_wirePayload (f : Frame) (key : Option MaskKey) (rest : Bytes) :
    payload? key.isSome f.payload.length (f.wirePayload key ++ rest) = some f.payload := by
  cases key with
  | none =>
      have htake : (f.payload ++ rest).take f.payload.length = f.payload := List.take_left
      simp only [payload?, wirePayload, htake]
      simp
  | some k =>
      have hlen : (k.apply f.payload).length = f.payload.length := by simp [MaskKey.apply]
      have htake : (k.apply f.payload ++ rest).take f.payload.length = k.apply f.payload := by
        rw [← hlen]
        exact List.take_left
      have hkey : MaskKey.mk k.k0 k.k1 k.k2 k.k3 = k := rfl
      simp only [payload?, wirePayload, MaskKey.bytes, List.cons_append, List.nil_append,
        Option.isSome_some, if_true, htake, hlen, hkey, MaskKey.apply_apply]
      simp

/-- **A legal frame that is written is read back**, whatever follows it. -/
theorem parse_encode_append (hf : f.IsLegal limit) (hlimit : limit < UInt64.size)
    (key : Option MaskKey) (rest : Bytes) :
    parse (f.encode key ++ rest) limit =
      .ok (some ({ f with masked := key.isSome }, (f.encode key).length)) := by
  obtain ⟨hreserved, hopcode, hfin⟩ := decode_firstByte f
  have hsize := hf.size
  obtain ⟨b1, ext, hbytes, hmask, hfield⟩ := lengthField_lengthBytes key.isSome
    (n := f.payload.length) (by omega) (f.wirePayload key ++ rest)
  have hdrop : (ext ++ (f.wirePayload key ++ rest)).drop ext.length = f.wirePayload key ++ rest :=
    List.drop_left
  have hwhole : ¬ (f.opcode.isControl && !f.fin) = true := by
    intro h
    rw [Bool.and_eq_true] at h
    simp [(hf.control h.1).1] at h
  have hshort : ¬ (f.opcode.isControl && decide (maxControlPayload < f.payload.length)) = true := by
    intro h
    rw [Bool.and_eq_true, decide_eq_true_eq] at h
    have hle := (hf.control h.1).2
    omega
  rw [encode_eq, hbytes]
  simp only [List.cons_append, List.append_assoc, parse, hreserved, hopcode, hfin, hmask, hfield,
    hdrop, payload?_wirePayload, if_neg hwhole, if_neg hshort, if_neg (Nat.not_lt.2 hsize)]
  have hkey : (if b1 &&& 0x80 ≠ 0 then 4 else 0) = keySize key.isSome := by
    rw [keySize, ← hmask]
    simp only [decide_eq_true_eq]
  have hused : 2 + ext.length + keySize key.isSome + f.payload.length =
      (f.firstByte :: b1 :: (ext ++ f.wirePayload key)).length := by
    simp only [List.length_cons, List.length_append, length_wirePayload]
    omega
  rw [if_neg (by simp), hkey, hused]

/-- Of a frame that is not all there nothing is read. -/
theorem parse_of_prefix_encode {p : Bytes} (hf : f.IsLegal limit) (hlimit : limit < UInt64.size)
    (hp : p <+: f.encode key) (hlt : p.length < (f.encode key).length) :
    parse p limit = .ok none := by
  obtain ⟨rest, hrest⟩ := hp
  have hwhole := parse_encode_append hf hlimit key []
  rw [List.append_nil, ← hrest] at hwhole
  refine Classical.byContradiction fun h => ?_
  rw [parse_append h rest] at hwhole
  have hle := (isRead_of_parse hwhole).le_length
  rw [hrest] at hle
  omega

/-! ## Reading everything -/

/-- Reads frames from the front of a byte string, until one is not all there or refused. -/
def readAll (limit : Nat) (bs : Bytes) : List Frame × Option FrameError :=
  match _h : parse bs limit with
  | .error e => ([], some e)
  | .ok none => ([], none)
  | .ok (some (f, n)) =>
      let (fs, e) := readAll limit (bs.drop n)
      (f :: fs, e)
termination_by bs.length
decreasing_by
  have hread := isRead_of_parse _h
  have htwo := hread.two_le
  have hle := hread.le_length
  rw [List.length_drop]
  omega

theorem readAll_of_error (h : parse bs limit = .error e) : readAll limit bs = ([], some e) := by
  rw [readAll]
  split <;> simp_all

theorem readAll_of_none (h : parse bs limit = .ok none) : readAll limit bs = ([], none) := by
  rw [readAll]
  split <;> simp_all

theorem readAll_of_some (h : parse bs limit = .ok (some (f, n))) :
    readAll limit bs = (f :: (readAll limit (bs.drop n)).1, (readAll limit (bs.drop n)).2) := by
  rw [readAll]
  split
  · simp_all
  · simp_all
  · next f' n' h' =>
      rw [h] at h'
      simp only [Except.ok.injEq, Option.some.injEq, Prod.mk.injEq] at h'
      obtain ⟨rfl, rfl⟩ := h'
      rfl

/-- The frames as they stand on the wire, one behind the other. -/
def encodeAll (fs : List Frame) : Bytes := fs.flatMap (·.encode none)

/-- Legal frames are read back one by one. -/
theorem readAll_encodeAll_append {fs : List Frame} (hlimit : limit < UInt64.size)
    (hfs : ∀ f ∈ fs, f.IsLegal limit ∧ f.masked = false) (rest : Bytes) :
    readAll limit (encodeAll fs ++ rest) =
      (fs ++ (readAll limit rest).1, (readAll limit rest).2) := by
  induction fs with
  | nil => rfl
  | cons f fs ih =>
      obtain ⟨hlegal, hmasked⟩ := hfs f List.mem_cons_self
      have hparse := parse_encode_append hlegal hlimit none (encodeAll fs ++ rest)
      have hunmasked : ({ f with masked := (none : Option MaskKey).isSome } : Frame) = f := by
        rw [Option.isSome_none, ← hmasked]
      rw [hunmasked] at hparse
      rw [encodeAll, List.flatMap_cons, List.append_assoc, ← encodeAll, readAll_of_some hparse,
        List.drop_left, ih fun g hg => hfs g (List.mem_cons_of_mem _ hg)]
      rfl

end Frame

end WebSocket

end WebServer
