import SaslClient.Except
import SaslClient.Json.Quoted
import SaslClient.Json.Value

/-!
# Strings, written and read

Every text is read back from its JSON string, whatever follows behind the string: a character that
is escaped is read as itself, and one that stands for itself is no quote, no backslash and no
control. An optional text is read back from its string or from `null`.

Main results:

* `readString_body`: reading a string gives the text that was written.
* `readOptionalText_written`: the same for an optional text.
-/

namespace SaslClient.Json

variable {input out rest : Bytes}

/-! ## Parts of a string -/

/-- The bytes are read, in as many rounds as there are of them, as these bytes of a string. -/
def Reads (input out rest : Bytes) : Prop :=
  ∀ rounds, input.length ≤ rounds → readStringBytes rounds input = .ok (out, rest)

theorem Reads.quote (rest : Bytes) : Reads (byte '"' :: rest) [] rest := by
  intro rounds hrounds
  cases rounds with
  | zero => cases hrounds
  | succ rounds => rfl

/-- A byte of a string that stands for itself. -/
def IsPlain (b : UInt8) : Prop :=
  b ≠ byte '"' ∧ b ≠ byte '\\' ∧ ¬ b < 0x20

theorem Reads.plain {b : UInt8} (hb : IsPlain b) (h : Reads input out rest) :
    Reads (b :: input) (b :: out) rest := by
  intro rounds hrounds
  cases rounds with
  | zero => cases hrounds
  | succ rounds =>
    rw [readStringBytes, if_neg hb.1, if_neg hb.2.1, if_neg hb.2.2,
      h rounds (Nat.le_of_succ_le_succ hrounds)]
    rfl

theorem Reads.plains {bs : Bytes} (hbs : ∀ b ∈ bs, IsPlain b) (h : Reads input out rest) :
    Reads (bs ++ input) (bs ++ out) rest := by
  induction bs with
  | nil => exact h
  | cons b bs ih =>
    obtain ⟨hb, hbs⟩ := List.forall_mem_cons.mp hbs
    exact (ih hbs).plain hb

theorem Reads.escape {code bytes : Bytes} (hcode : readEscape (code ++ input) = .ok (bytes, input))
    (h : Reads input out rest) :
    Reads (byte '\\' :: (code ++ input)) (bytes ++ out) rest := by
  intro rounds hrounds
  cases rounds with
  | zero => cases hrounds
  | succ rounds =>
    rw [List.length_cons, List.length_append] at hrounds
    rw [readStringBytes, if_neg (by decide), if_pos rfl, hcode, Except.ok_bind]
    dsimp only
    rw [h rounds (by omega)]
    rfl

/-! ## Characters -/

/-- The bytes that a character is written with. -/
def writtenChar (c : Char) : Bytes :=
  (escapeChar c).flatMap String.utf8EncodeChar

theorem isPlain_iff {b : UInt8} : IsPlain b ↔ b.toNat ≠ 34 ∧ b.toNat ≠ 92 ∧ 32 ≤ b.toNat := by
  simp only [IsPlain, byte, ne_eq, ← UInt8.toNat_inj, UInt8.lt_iff_toNat_lt]
  simp

/-- The bytes of a character that is not escaped stand for themselves: they are those of a longer
form, which have their top bit set, or the character itself. -/
theorem isPlain_of_mem_utf8EncodeChar {c : Char} (hquote : c ≠ '"') (hbackslash : c ≠ '\\')
    (hcontrol : ¬ c.toNat < 0x20) : ∀ b ∈ String.utf8EncodeChar c, IsPlain b := by
  have hquote : c.val.toNat ≠ 34 := fun h => hquote (Char.toNat_inj.mp h)
  have hbackslash : c.val.toNat ≠ 92 := fun h => hbackslash (Char.toNat_inj.mp h)
  have hcontrol : 32 ≤ c.val.toNat := Nat.le_of_not_lt hcontrol
  intro b hb
  rw [isPlain_iff]
  revert hb
  fun_cases String.utf8EncodeChar c <;>
    simp only [List.mem_cons, List.not_mem_nil, or_false, ← UInt8.toNat_inj, UInt8.toNat_ofNat'] <;>
    omega

theorem utf8EncodeChar_digit {k : Nat} (hk : k < 16) :
    String.utf8EncodeChar (Hex.digit k) = [byte (Hex.digit k)] := by
  have hall : ∀ k < 16, String.utf8EncodeChar (Hex.digit k) = [byte (Hex.digit k)] := by decide
  exact hall k hk

/-- A control is read back from its code. -/
theorem readEscape_control {c : Char} (hc : c.toNat < 0x20) (input : Bytes) :
    readEscape ([byte 'u', byte '0', byte '0', byte (Hex.digit (c.toNat / 16)),
      byte (Hex.digit (c.toNat % 16))] ++ input) = .ok (String.utf8EncodeChar c, input) := by
  have hdigit : ∀ k < 16, hexValue? (byte (Hex.digit k)) = some k := by decide
  have hunit : readUnit (byte '0' :: byte '0' :: byte (Hex.digit (c.toNat / 16)) ::
      byte (Hex.digit (c.toNat % 16)) :: input) = .ok (c.toNat, input) := by
    have hvalue : (0 * 16 + c.toNat / 16) * 16 + c.toNat % 16 = c.toNat := by omega
    rw [readUnit, show hexValue? (byte '0') = some 0 from rfl, hdigit _ (by omega),
      hdigit _ (by omega)]
    simp only [Nat.zero_mul, hvalue]
  have hcode : codePoint c.toNat = String.utf8EncodeChar c := by
    rw [codePoint, Char.ofNat_toNat, Utf8.encode_eq_flatMap]
    simp
  simp only [List.cons_append, List.nil_append]
  rw [readEscape, show simpleEscape? (byte 'u') = none from rfl]
  dsimp only
  rw [if_pos rfl, readUnitEscape, hunit, Except.ok_bind]
  dsimp only
  rw [if_neg (by omega), if_pos (by omega), hcode]

theorem Reads.char (c : Char) (h : Reads input out rest) :
    Reads (writtenChar c ++ input) (String.utf8EncodeChar c ++ out) rest := by
  have hsimple (letter : Char) (b : UInt8) (hletter : simpleEscape? (byte letter) = some b) :
      Reads (byte '\\' :: ([byte letter] ++ input)) ([b] ++ out) rest := by
    refine h.escape ?_
    show readEscape (byte letter :: input) = _
    rw [readEscape, hletter]
  unfold writtenChar escapeChar
  split
  next hc => subst hc; exact hsimple '"' _ rfl
  split
  next hc => subst hc; exact hsimple '\\' _ rfl
  split
  next hc => subst hc; exact hsimple 'n' _ rfl
  split
  next hc => subst hc; exact hsimple 'r' _ rfl
  split
  next hc => subst hc; exact hsimple 't' _ rfl
  split
  next hc =>
    obtain rfl : c = '\x08' := Char.toNat_inj.mp hc
    exact hsimple 'b' _ rfl
  split
  next hc =>
    obtain rfl : c = '\x0c' := Char.toNat_inj.mp hc
    exact hsimple 'f' _ rfl
  split
  next hc =>
    have hhigh := utf8EncodeChar_digit (show c.toNat / 16 < 16 by omega)
    have hlow := utf8EncodeChar_digit (show c.toNat % 16 < 16 by omega)
    simp only [List.flatMap_cons, List.flatMap_nil, hhigh, hlow]
    exact h.escape (readEscape_control hc input)
  next hquote hbackslash _ _ _ _ _ hcontrol =>
    rw [List.flatMap_singleton]
    exact h.plains (isPlain_of_mem_utf8EncodeChar hquote hbackslash hcontrol)

/-! ## Whole strings -/

/-- The bytes between the quotes of a string. -/
def body (s : String) : Bytes :=
  s.toList.flatMap writtenChar

theorem encode_quote (s : String) :
    Utf8.encode (quote s) = byte '"' :: (body s ++ [byte '"']) := by
  rw [Utf8.encode_eq_flatMap, quote, String.toList_ofList, List.flatMap_cons, List.flatMap_append,
    List.flatMap_assoc]
  rfl

theorem reads_body (s : String) (rest : Bytes) :
    Reads (body s ++ byte '"' :: rest) (Utf8.encode s) rest := by
  rw [Utf8.encode_eq_flatMap, body]
  induction s.toList with
  | nil => exact .quote rest
  | cons c cs ih =>
    rw [List.flatMap_cons, List.flatMap_cons, List.append_assoc]
    exact ih.char c

/-- Reading a string gives the text that was written. -/
theorem readString_body (s : String) (rest : Bytes) :
    readString (body s ++ byte '"' :: rest) = .ok (s, rest) := by
  rw [readString, reads_body s rest _ (Nat.le_refl _), Except.ok_bind]
  dsimp only
  rw [Utf8.decode_encode]

/-- An optional text: its string, or `null`. -/
def quoteOption : Option String → String
  | some s => quote s
  | none => "null"

/-- An optional text is read back. -/
theorem readOptionalText_written (value : Option String) (rest : Bytes) :
    readOptionalText (Utf8.encode (quoteOption value) ++ rest) = .ok (value, rest) := by
  cases value with
  | none =>
    rw [show Utf8.encode (quoteOption none) = "null".toList.map byte from by decide]
    rfl
  | some s =>
    have hblanks : skipBlanks (byte '"' :: (body s ++ byte '"' :: rest)) =
        byte '"' :: (body s ++ byte '"' :: rest) := rfl
    have htext : readText (byte '"' :: (body s ++ byte '"' :: rest)) = .ok (s, rest) :=
      readString_body s rest
    rw [quoteOption, encode_quote, List.cons_append, List.append_assoc, List.singleton_append,
      readOptionalText, hblanks]
    dsimp only
    rw [if_neg (by decide), htext]
    rfl

end SaslClient.Json
