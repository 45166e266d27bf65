import WebServer.Bytes

/-!
# WebServer.Digest.Base64

Base64 with the standard alphabet and padding. Three bytes are four characters;
a last group of one or two bytes is filled up with equals signs. Reading is
strict: the padding must be there, and the bits that it cuts off must be zero.

Main statements: reading undoes writing (`decode?_encode`), and reads nothing else
(`decode?_eq_some_iff`).
-/

namespace WebServer

namespace Base64

/-- The characters for the values 0 to 63. -/
def alphabet : List Char :=
  "ABCDEFGHIJKLMNOPQRSTUVWXYZabcdefghijklmnopqrstuvwxyz0123456789+/".toList

/-- The character of a six-bit value. -/
def digit (n : Nat) : Char := alphabet.getD n '='

/-- The value of a character. -/
def value? (c : Char) : Option Nat :=
  if 'A' ≤ c ∧ c ≤ 'Z' then some (c.toNat - 65)
  else if 'a' ≤ c ∧ c ≤ 'z' then some (c.toNat - 71)
  else if '0' ≤ c ∧ c ≤ '9' then some (c.toNat + 4)
  else if c = '+' then some 62
  else if c = '/' then some 63
  else none

/-- Writes bytes. -/
def encode : Bytes → List Char
  | [] => []
  | [x] =>
      let n := x.toNat
      [digit (n / 4), digit (n % 4 * 16), '=', '=']
  | [x, y] =>
      let n := x.toNat * 256 + y.toNat
      [digit (n / 1024), digit (n / 16 % 64), digit (n % 16 * 4), '=']
  | x :: y :: z :: rest =>
      let n := (x.toNat * 256 + y.toNat) * 256 + z.toNat
      digit (n / 262144) :: digit (n / 4096 % 64) :: digit (n / 64 % 64) :: digit (n % 64) ::
        encode rest

/-- The byte that eight bits of a number make, from bit `k` on. -/
def byteAt (n k : Nat) : UInt8 := UInt8.ofNat (n >>> k % 256)

/-- Reads what `encode` writes, and nothing else. -/
def decode? : List Char → Option Bytes
  | [] => some []
  | a :: b :: c :: d :: rest => do
      let x ← value? a
      let y ← value? b
      if c = '=' then
        if d = '=' ∧ rest = [] ∧ y % 16 = 0 then some [byteAt (x * 64 + y) 4] else none
      else
        let z ← value? c
        if d = '=' then
          let n := (x * 64 + y) * 64 + z
          if rest = [] ∧ z % 4 = 0 then some [byteAt n 10, byteAt n 2] else none
        else
          let w ← value? d
          let n := ((x * 64 + y) * 64 + z) * 64 + w
          let more ← decode? rest
          return byteAt n 16 :: byteAt n 8 :: byteAt n 0 :: more
  | _ => none

theorem value?_digit : ∀ n < 64, value? (digit n) = some n := by decide +kernel

theorem digit_ne_pad : ∀ n < 64, digit n ≠ '=' := by decide +kernel

theorem byteAt_eq {n k : Nat} {b : UInt8} (h : n >>> k % 256 = b.toNat) : byteAt n k = b := by
  rw [byteAt, h]
  exact UInt8.ofNat_toNat

/-- Reading undoes writing. -/
theorem decode?_encode (bs : Bytes) : decode? (encode bs) = some bs := by
  fun_induction encode bs with
  | case1 => rfl
  | case2 x n =>
      have hx := x.toNat_lt
      have h1 := value?_digit (n / 4) (by omega)
      have h2 := value?_digit (n % 4 * 16) (by omega)
      have hb : byteAt (n / 4 * 64 + n % 4 * 16) 4 = x := byteAt_eq (by omega)
      simp [decode?, h1, h2, hb]
  | case3 x y n =>
      have hx := x.toNat_lt
      have hy := y.toNat_lt
      have h1 := value?_digit (n / 1024) (by omega)
      have h2 := value?_digit (n / 16 % 64) (by omega)
      have h3 := value?_digit (n % 16 * 4) (by omega)
      have hp := digit_ne_pad (n % 16 * 4) (by omega)
      have hb : byteAt ((n / 1024 * 64 + n / 16 % 64) * 64 + n % 16 * 4) 10 = x :=
        byteAt_eq (by omega)
      have hc : byteAt ((n / 1024 * 64 + n / 16 % 64) * 64 + n % 16 * 4) 2 = y :=
        byteAt_eq (by omega)
      simp [decode?, h1, h2, h3, hp, hb, hc]
  | case4 x y z rest n ih =>
      have hx := x.toNat_lt
      have hy := y.toNat_lt
      have hz := z.toNat_lt
      have h1 := value?_digit (n / 262144) (by omega)
      have h2 := value?_digit (n / 4096 % 64) (by omega)
      have h3 := value?_digit (n / 64 % 64) (by omega)
      have h4 := value?_digit (n % 64) (by omega)
      have hp := digit_ne_pad (n / 64 % 64) (by omega)
      have hq := digit_ne_pad (n % 64) (by omega)
      have hn : ((n / 262144 * 64 + n / 4096 % 64) * 64 + n / 64 % 64) * 64 + n % 64 = n := by
        omega
      have ha : byteAt n 16 = x := byteAt_eq (by omega)
      have hb : byteAt n 8 = y := byteAt_eq (by omega)
      have hc : byteAt n 0 = z := byteAt_eq (by omega)
      simp [decode?, h1, h2, h3, h4, hp, hq, hn, ha, hb, hc, ih]

/-! ## What can be read -/

theorem value?_ofNat : ∀ k < 128,
    (value? (Char.ofNat k)).all fun n => decide (n < 64 ∧ digit n = Char.ofNat k) := by
  decide +kernel

theorem lt_of_value? {c : Char} {n : Nat} (h : value? c = some n) : c.toNat < 128 := by
  have hle : ∀ {d : Char}, c ≤ d → c.toNat ≤ d.toNat := fun h => by
    rwa [Char.le_def, UInt32.le_iff_toNat_le] at h
  unfold value? at h
  split at h
  · next h' => exact Nat.lt_of_le_of_lt (hle h'.2) (by decide)
  split at h
  · next h' => exact Nat.lt_of_le_of_lt (hle h'.2) (by decide)
  split at h
  · next h' => exact Nat.lt_of_le_of_lt (hle h'.2) (by decide)
  split at h
  · next h' => rw [h']; decide
  split at h
  · next h' => rw [h']; decide
  · contradiction

/-- A character that has a value is the character of that value. -/
theorem digit_of_value? {c : Char} {n : Nat} (h : value? c = some n) : n < 64 ∧ digit n = c := by
  have hc := value?_ofNat c.toNat (lt_of_value? h)
  rw [Char.ofNat_toNat, h] at hc
  simpa using hc

theorem toNat_byteAt (n k : Nat) : (byteAt n k).toNat = n >>> k % 256 := by
  rw [byteAt, UInt8.toNat_ofNat']
  omega

/-- What is read was written. -/
theorem eq_encode_of_decode? {cs : List Char} {bs : Bytes} (h : decode? cs = some bs) :
    cs = encode bs := by
  fun_induction decode? cs generalizing bs with
  | case1 =>
      obtain rfl := Option.some.inj h
      rfl
  | case2 a b c d rest ih =>
      simp only [Option.bind_eq_bind, Option.bind_eq_some_iff] at h
      obtain ⟨x, hx, y, hy, h⟩ := h
      obtain ⟨hxlt, rfl⟩ := digit_of_value? hx
      obtain ⟨hylt, rfl⟩ := digit_of_value? hy
      split at h
      · next hc =>
          rw [Option.ite_none_right_eq_some] at h
          obtain ⟨⟨rfl, rfl, hpad⟩, hbs⟩ := h
          obtain rfl := Option.some.inj hbs
          rw [hc, encode, toNat_byteAt]
          have h1 : (x * 64 + y) >>> 4 % 256 / 4 = x := by omega
          have h2 : (x * 64 + y) >>> 4 % 256 % 4 * 16 = y := by omega
          simp only [h1, h2]
      · rw [Option.bind_eq_some_iff] at h
        obtain ⟨z, hz, h⟩ := h
        obtain ⟨hzlt, rfl⟩ := digit_of_value? hz
        split at h
        · next hd =>
            rw [Option.ite_none_right_eq_some] at h
            obtain ⟨⟨rfl, hpad⟩, hbs⟩ := h
            obtain rfl := Option.some.inj hbs
            rw [hd, encode, toNat_byteAt, toNat_byteAt]
            have hm : ((x * 64 + y) * 64 + z) >>> 10 % 256 * 256 +
                ((x * 64 + y) * 64 + z) >>> 2 % 256 = (x * 64 + y) * 16 + z / 4 := by omega
            have h1 : ((x * 64 + y) * 16 + z / 4) / 1024 = x := by omega
            have h2 : ((x * 64 + y) * 16 + z / 4) / 16 % 64 = y := by omega
            have h3 : ((x * 64 + y) * 16 + z / 4) % 16 * 4 = z := by omega
            simp only [hm, h1, h2, h3]
        · simp only [Option.bind_eq_some_iff] at h
          obtain ⟨w, hw, more, hmore, hbs⟩ := h
          obtain ⟨hwlt, rfl⟩ := digit_of_value? hw
          obtain rfl := Option.some.inj hbs
          rw [encode, toNat_byteAt, toNat_byteAt, toNat_byteAt, ← ih hmore]
          have hm : (((((x * 64 + y) * 64 + z) * 64 + w) >>> 16 % 256 * 256 +
              (((x * 64 + y) * 64 + z) * 64 + w) >>> 8 % 256) * 256 +
              (((x * 64 + y) * 64 + z) * 64 + w) >>> 0 % 256) =
              ((x * 64 + y) * 64 + z) * 64 + w := by omega
          have h1 : (((x * 64 + y) * 64 + z) * 64 + w) / 262144 = x := by omega
          have h2 : (((x * 64 + y) * 64 + z) * 64 + w) / 4096 % 64 = y := by omega
          have h3 : (((x * 64 + y) * 64 + z) * 64 + w) / 64 % 64 = z := by omega
          have h4 : (((x * 64 + y) * 64 + z) * 64 + w) % 64 = w := by omega
          simp only [hm, h1, h2, h3, h4]
  | case3 => contradiction

/-- Reading accepts what writing produces, and nothing else. -/
theorem decode?_eq_some_iff {cs : List Char} {bs : Bytes} :
    decode? cs = some bs ↔ cs = encode bs :=
  ⟨eq_encode_of_decode?, fun h => h ▸ decode?_encode bs⟩

end Base64

end WebServer
