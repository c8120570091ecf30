import SaslClient.Bytes.Basic

/-!
# Base64 text

Groups of three bytes become four characters of the standard alphabet; a shorter last group is
padded with `=`.

Main result: `encode_inj`, a text stands for no more than one byte string.
-/

namespace SaslClient.Base64

/-- The character for a number below sixty-four. -/
def symbol (n : Nat) : Char :=
  if n < 26 then Char.ofNat (65 + n)
  else if n < 52 then Char.ofNat (71 + n)
  else if n < 62 then Char.ofNat (n - 4)
  else if n = 62 then '+'
  else '/'

/-- The characters of a byte string, padding included. -/
def symbols : Bytes → List Char
  | [] => []
  | [a] =>
    let n := a.toNat * 16
    [symbol (n / 64), symbol (n % 64), '=', '=']
  | [a, b] =>
    let n := (a.toNat * 256 + b.toNat) * 4
    [symbol (n / 4096), symbol (n / 64 % 64), symbol (n % 64), '=']
  | a :: b :: c :: rest =>
    let n := (a.toNat * 256 + b.toNat) * 256 + c.toNat
    symbol (n / 262144) :: symbol (n / 4096 % 64) :: symbol (n / 64 % 64) :: symbol (n % 64) ::
      symbols rest

/-- The base64 text of a byte string. -/
def encode (bs : Bytes) : String :=
  String.ofList (symbols bs)

/-! ## The text determines the bytes -/

theorem symbol_inj {m n : Nat} (hm : m < 64) (hn : n < 64) (h : symbol m = symbol n) : m = n := by
  have hall : ∀ m < 64, ∀ n < 64, symbol m = symbol n → m = n := by decide +kernel
  exact hall m hm n hn h

theorem symbol_of_le {n : Nat} (h : 63 ≤ n) : symbol n = '/' := by
  unfold symbol
  rw [if_neg (by omega), if_neg (by omega), if_neg (by omega), if_neg (by omega)]

theorem symbol_ne_pad (n : Nat) : symbol n ≠ '=' := by
  have hall : ∀ n < 63, symbol n ≠ '=' := by decide
  by_cases h : n < 63
  · exact hall n h
  · rw [symbol_of_le (by omega)]
    decide

theorem symbols_inj : ∀ {bs bs' : Bytes}, symbols bs = symbols bs' → bs = bs'
  | [], [], _ => rfl
  | [a], [a'], h => by
    have ha := a.toNat_lt
    have ha' := a'.toNat_lt
    simp only [symbols, List.cons.injEq, and_true] at h
    have h1 := symbol_inj (by omega) (by omega) h.1
    have h2 := symbol_inj (by omega) (by omega) h.2
    rw [List.cons.injEq, and_iff_left rfl, ← UInt8.toNat_inj]
    omega
  | [a, b], [a', b'], h => by
    have ha := a.toNat_lt
    have ha' := a'.toNat_lt
    have hb := b.toNat_lt
    have hb' := b'.toNat_lt
    simp only [symbols, List.cons.injEq, and_true] at h
    have h1 := symbol_inj (by omega) (by omega) h.1
    have h2 := symbol_inj (by omega) (by omega) h.2.1
    have h3 := symbol_inj (by omega) (by omega) h.2.2
    have heq : a = a' ∧ b = b' := by
      rw [← UInt8.toNat_inj, ← UInt8.toNat_inj]
      omega
    rw [heq.1, heq.2]
  | a :: b :: c :: rest, a' :: b' :: c' :: rest', h => by
    have ha := a.toNat_lt
    have ha' := a'.toNat_lt
    have hb := b.toNat_lt
    have hb' := b'.toNat_lt
    have hc := c.toNat_lt
    have hc' := c'.toNat_lt
    simp only [symbols, List.cons.injEq] at h
    have h1 := symbol_inj (by omega) (by omega) h.1
    have h2 := symbol_inj (by omega) (by omega) h.2.1
    have h3 := symbol_inj (by omega) (by omega) h.2.2.1
    have h4 := symbol_inj (by omega) (by omega) h.2.2.2.1
    have heq : a = a' ∧ b = b' ∧ c = c' := by
      rw [← UInt8.toNat_inj, ← UInt8.toNat_inj, ← UInt8.toNat_inj]
      omega
    rw [heq.1, heq.2.1, heq.2.2, symbols_inj h.2.2.2.2]
  -- texts of different lengths, or with padding in place of a symbol
  | [], [_], h | [], [_, _], h | [], _ :: _ :: _ :: _, h => nomatch h
  | [_], [], h | [_, _], [], h | _ :: _ :: _ :: _, [], h => nomatch h
  | [_], [_, _], h | [_], _ :: _ :: _ :: _, h | [_, _], _ :: _ :: _ :: _, h => by
    simp [symbols, (symbol_ne_pad _).symm] at h
  | [_, _], [_], h | _ :: _ :: _ :: _, [_], h | _ :: _ :: _ :: _, [_, _], h => by
    simp [symbols, symbol_ne_pad] at h

/-- Different byte strings have different texts. -/
theorem encode_inj {bs bs' : Bytes} (h : encode bs = encode bs') : bs = bs' :=
  symbols_inj (String.ofList_injective h)

end SaslClient.Base64
