import WebServer.Proofs.Text.Line
import WebServer.Text.Number

/-!
# WebServer.Proofs.Text.Numeral

Numerals are read as they are written, in every base up to sixteen
(`unsigned?_toDigits`), and hold nothing but digits (`of_mem_toDigits`). What is
read in base ten is a decimal numeral, and nothing else is
(`unsigned?_ten_eq_some_iff`).
-/

namespace WebServer

variable {b d n : Nat} {c : Char} {cs : List Char}

/-! ## Digits -/

theorem digitValue_digitChar (h : d < 16) : digitValue (Nat.digitChar d) = some d := by
  have hall : ∀ d < 16, digitValue (Nat.digitChar d) = some d := by decide
  exact hall d h

theorem digitIn?_digitChar (hd : d < b) (hb : b ≤ 16) : digitIn? b (Nat.digitChar d) = some d := by
  rw [digitIn?, digitValue_digitChar (by omega)]
  simp [hd]

/-- A digit is an ASCII character, no white space, no sign and no separator. -/
def isPlainDigit (c : Char) : Bool :=
  c.toNat < 128 && !isBlank c && c != '+' && c != ';' && c != ','

theorem isBlank_of_isPlainDigit (h : isPlainDigit c = true) : isBlank c = false := by
  simp only [isPlainDigit, Bool.and_eq_true, Bool.not_eq_true'] at h
  exact h.1.1.1.2

theorem isPlainDigit_digitChar (h : d < 16) : isPlainDigit (Nat.digitChar d) = true := by
  have hall : ∀ d < 16, isPlainDigit (Nat.digitChar d) = true := by decide
  exact hall d h

/-! ## Numerals -/

theorem digitsFrom?_append (n : Nat) (xs ys : List Char) :
    digitsFrom? b n (xs ++ ys) = (digitsFrom? b n xs).bind fun m => digitsFrom? b m ys := by
  induction xs generalizing n with
  | nil => rfl
  | cons x xs ih =>
      rw [List.cons_append, digitsFrom?, digitsFrom?]
      cases digitIn? b x with
      | none => rfl
      | some d => exact ih (n * b + d)

/-- The digits of a number spell it. -/
theorem digitsFrom?_toDigits (hb : 1 < b) (hb' : b ≤ 16) (n : Nat) :
    digitsFrom? b 0 (Nat.toDigits b n) = some n := by
  induction n using Nat.strongRecOn with
  | ind n ih =>
      by_cases hn : n < b
      · rw [Nat.toDigits_of_lt_base hn, digitsFrom?, digitIn?_digitChar hn hb']
        simp [digitsFrom?]
      · have hlt : n / b < n := Nat.div_lt_self (by omega) hb
        have hmod : n % b < b := Nat.mod_lt n (by omega)
        rw [Nat.toDigits_of_base_le hb (by omega), digitsFrom?_append, ih _ hlt, Option.bind_some,
          digitsFrom?, digitIn?_digitChar hmod hb', Option.bind_some, digitsFrom?]
        rw [Nat.div_add_mod']

theorem of_mem_toDigits (hb : 1 < b) (hb' : b ≤ 16) (h : c ∈ Nat.toDigits b n) :
    isPlainDigit c = true := by
  induction n using Nat.strongRecOn with
  | ind n ih =>
      by_cases hn : n < b
      · rw [Nat.toDigits_of_lt_base hn, List.mem_singleton] at h
        rw [h]
        exact isPlainDigit_digitChar (by omega)
      · have hmod : n % b < b := Nat.mod_lt n (by omega)
        rw [Nat.toDigits_of_base_le hb (by omega), List.mem_append, List.mem_singleton] at h
        rcases h with h | h
        · exact ih _ (Nat.div_lt_self (by omega) hb) h
        · rw [h]
          exact isPlainDigit_digitChar (by omega)

theorem trim_toDigits (hb : 1 < b) (hb' : b ≤ 16) (n : Nat) :
    trim (Nat.toDigits b n) = Nat.toDigits b n :=
  trim_eq_self fun _ hc => isBlank_of_isPlainDigit (of_mem_toDigits hb hb' hc)

/-- A numeral is read as it is written. -/
theorem unsigned?_toDigits (hb : 1 < b) (hb' : b ≤ 16) (hn : n < wordLimit) :
    unsigned? b (Nat.toDigits b n) = some n := by
  have hdigits := digitsFrom?_toDigits hb hb' n
  cases hds : Nat.toDigits b n with
  | nil => exact absurd hds Nat.toDigits_ne_nil
  | cons x xs =>
      have hx : isPlainDigit x = true :=
        of_mem_toDigits hb hb' (n := n) (by rw [hds]; exact List.mem_cons_self)
      have hplus : x ≠ '+' := by
        rintro rfl
        simp [isPlainDigit] at hx
      have hread : unsigned? b (x :: xs) = (digits? b (x :: xs)).filter (· < wordLimit) := by
        unfold unsigned?
        split
        · next rest heq => exact absurd (List.cons.inj heq).1 hplus
        · rfl
      rw [hds] at hdigits
      rw [hread, digits?, hdigits]
      simp [hn]

/-! ## Decimal numerals -/

theorem toList_toString (n : Nat) : (toString n).toList = Nat.toDigits 10 n := by
  rw [Nat.toString_eq_ofList_toDigits, String.toList_ofList]

theorem trimText_toString (n : Nat) : trimText (toString n) = toString n := by
  rw [trimText, toList_toString, trim_toDigits (by decide) (by decide),
    Nat.toString_eq_ofList_toDigits]

theorem decimal?_toString (hn : n < wordLimit) : decimal? (toString n) = some n := by
  rw [decimal?, toList_toString, unsigned?_toDigits (by decide) (by decide) hn]

theorem decimal?_trimText (v : String) : decimal? (trimText v) = unsigned? 10 (trim v.toList) := by
  rw [decimal?, trimText, String.toList_ofList]

/-- The digits of base ten. -/
theorem digitIn?_ten (c : Char) :
    digitIn? 10 c = if c.isDigit then some (c.toNat - '0'.toNat) else none := by
  have hrange : c.isDigit = true ↔ '0' ≤ c ∧ c ≤ '9' := Char.isDigit_iff_toNat
  unfold digitIn? digitValue
  by_cases hc : c.isDigit = true
  · have hval : c.toNat - '0'.toNat < 10 := by
      have hup : c.toNat ≤ '9'.toNat := (hrange.1 hc).2
      simp only [Char.reduceToNat] at hup ⊢
      omega
    rw [if_pos (hrange.1 hc), if_pos hc, Option.filter_some, if_pos (decide_eq_true hval)]
  · rw [if_neg (mt hrange.2 hc), if_neg hc]
    split
    · simp
    · split <;> simp

theorem digitsFrom?_ten (n : Nat) (cs : List Char) :
    digitsFrom? 10 n cs =
      if cs.all Char.isDigit then some (Nat.ofDigitChars 10 cs n) else none := by
  induction cs generalizing n with
  | nil => rfl
  | cons c cs ih =>
      rw [digitsFrom?, digitIn?_ten]
      by_cases hc : c.isDigit = true
      · rw [if_pos hc, Option.bind_some, ih, Nat.mul_comm n 10]
        simp [hc, Nat.ofDigitChars]
      · simp [hc]

/-- A decimal numeral of a word: digits, with a plus sign in front or none. -/
def IsDecimal (cs : List Char) (n : Nat) : Prop :=
  ∃ sign digits, cs = sign ++ digits ∧ (sign = [] ∨ sign = ['+']) ∧ digits ≠ [] ∧
    (∀ c ∈ digits, c.isDigit = true) ∧ Nat.ofDigitChars 10 digits 0 = n ∧ n < wordLimit

theorem digits?_ten_eq_some_iff :
    digits? 10 cs = some n ↔
      cs ≠ [] ∧ (∀ c ∈ cs, c.isDigit = true) ∧ Nat.ofDigitChars 10 cs 0 = n := by
  cases cs with
  | nil => simp [digits?]
  | cons c cs =>
      rw [digits?, digitsFrom?_ten, Option.ite_none_right_eq_some, List.all_eq_true]
      simp

/-- What is read as a number is a numeral of it. -/
theorem unsigned?_ten_eq_some_iff : unsigned? 10 cs = some n ↔ IsDecimal cs n := by
  have hread : ∀ ds, ((digits? 10 ds).filter (· < wordLimit)) = some n ↔
      (ds ≠ [] ∧ (∀ c ∈ ds, c.isDigit = true) ∧ Nat.ofDigitChars 10 ds 0 = n) ∧ n < wordLimit := by
    intro ds
    rw [Option.filter_eq_some_iff, digits?_ten_eq_some_iff, decide_eq_true_iff]
  unfold unsigned?
  split
  · next ds =>
      rw [hread]
      constructor
      · rintro ⟨⟨hne, hdigits, hval⟩, hlt⟩
        exact ⟨['+'], ds, rfl, .inr rfl, hne, hdigits, hval, hlt⟩
      · rintro ⟨sign, digits, hcs, rfl | rfl, hne, hdigits, hval, hlt⟩
        · rw [List.nil_append] at hcs
          subst hcs
          exact absurd (hdigits '+' List.mem_cons_self) (by decide)
        · obtain rfl : ds = digits := (List.cons.inj hcs).2
          exact ⟨⟨hne, hdigits, hval⟩, hlt⟩
  · next hplus =>
      rw [hread]
      constructor
      · rintro ⟨⟨hne, hdigits, hval⟩, hlt⟩
        exact ⟨[], cs, rfl, .inl rfl, hne, hdigits, hval, hlt⟩
      · rintro ⟨sign, digits, rfl, rfl | rfl, hne, hdigits, hval, hlt⟩
        · exact ⟨⟨hne, hdigits, hval⟩, hlt⟩
        · exact absurd rfl (hplus digits)

end WebServer
