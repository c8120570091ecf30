import SaslClient.Bytes.Basic

/-!
# Hexadecimal text

Each byte is two lower-case digits, the high half first. Digits are read in either letter case.

Main results: `length_digits` counts the digits, and by `encode_inj` a text stands for no more than
one byte string.
-/

namespace SaslClient.Hex

/-- The digit for a number below sixteen. -/
def digit (n : Nat) : Char :=
  if n < 10 then Char.ofNat (48 + n) else Char.ofNat (87 + n)

/-- Whether a character is a hexadecimal digit, in either letter case. -/
def isDigit (c : Char) : Bool :=
  ('0' ≤ c && c ≤ '9') || ('a' ≤ c.toLower && c.toLower ≤ 'f')

/-- The number that a hexadecimal digit stands for. -/
def value (c : Char) : Nat :=
  if c ≤ '9' then c.toNat - 48 else c.toLower.toNat - 87

/-- The digits of a byte string. -/
def digits (bs : Bytes) : List Char :=
  bs.flatMap fun b => [digit (b.toNat / 16), digit (b.toNat % 16)]

/-- The hexadecimal text of a byte string. -/
def encode (bs : Bytes) : String :=
  String.ofList (digits bs)

@[simp] theorem length_digits (bs : Bytes) : (digits bs).length = 2 * bs.length := by
  induction bs with
  | nil => rfl
  | cons b bs ih => simp only [digits, List.flatMap_cons] at ih ⊢; simp [ih]; omega

@[simp] theorem toList_encode (bs : Bytes) : (encode bs).toList = digits bs := by
  simp [encode]

theorem value_digit {n : Nat} (h : n < 16) : value (digit n) = n := by
  have hall : ∀ n < 16, value (digit n) = n := by decide
  exact hall n h

theorem isDigit_digit {n : Nat} (h : n < 16) : isDigit (digit n) = true := by
  have hall : ∀ n < 16, isDigit (digit n) = true := by decide
  exact hall n h

theorem isDigit_of_mem_digits {bs : Bytes} {c : Char} (h : c ∈ digits bs) : isDigit c = true := by
  obtain ⟨b, -, hc⟩ := List.mem_flatMap.mp h
  have hb := b.toNat_lt
  rw [List.mem_cons, List.mem_singleton] at hc
  rcases hc with rfl | rfl
  · exact isDigit_digit (by omega)
  · exact isDigit_digit (by omega)

theorem digits_inj : ∀ {bs bs' : Bytes}, digits bs = digits bs' → bs = bs'
  | [], [], _ => rfl
  | [], _ :: _, h => nomatch h
  | _ :: _, [], h => nomatch h
  | b :: bs, b' :: bs', h => by
    have hb := b.toNat_lt
    have hb' := b'.toNat_lt
    obtain ⟨hhigh, hlow, hrest⟩ : digit (b.toNat / 16) = digit (b'.toNat / 16) ∧
        digit (b.toNat % 16) = digit (b'.toNat % 16) ∧ digits bs = digits bs' := by
      simpa [digits] using h
    have heq : b = b' := by
      have hhigh := congrArg value hhigh
      have hlow := congrArg value hlow
      rw [value_digit (by omega), value_digit (by omega)] at hhigh hlow
      rw [← UInt8.toNat_inj]
      omega
    rw [heq, digits_inj hrest]

/-- Different byte strings have different hexadecimal texts. -/
theorem encode_inj {bs bs' : Bytes} (h : encode bs = encode bs') : bs = bs' :=
  digits_inj (String.ofList_injective h)

end SaslClient.Hex
