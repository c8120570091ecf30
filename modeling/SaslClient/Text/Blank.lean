/-!
# Blanks

Which characters are blank (the Unicode property `White_Space`), and two operations that treat
them: trimming both ends, and replacing each run of blanks by one space.

`normalize` does both. It is what a header value goes through before it is signed, so the signed
text depends on the words of the value only.
-/

namespace SaslClient.Text

/-- The Unicode property `White_Space`. -/
def isBlank (c : Char) : Bool :=
  let n := c.toNat
  (9 ≤ n && n ≤ 13) || n == 0x20 || n == 0x85 || n == 0xA0 || n == 0x1680 ||
    (0x2000 ≤ n && n ≤ 0x200A) || n == 0x2028 || n == 0x2029 || n == 0x202F || n == 0x205F ||
    n == 0x3000

/-- The characters without the blanks in front. -/
def dropBlanks (cs : List Char) : List Char :=
  cs.dropWhile isBlank

/-- The characters without the blanks at either end. -/
def trimChars (cs : List Char) : List Char :=
  (dropBlanks (dropBlanks cs).reverse).reverse

/-- Each run of blanks becomes one space; `afterBlank` tells that the character before was blank. -/
def collapse (afterBlank : Bool) : List Char → List Char
  | [] => []
  | c :: cs =>
    if isBlank c then
      if afterBlank then collapse true cs else ' ' :: collapse true cs
    else c :: collapse false cs

/-- The text trimmed, with one space for each inner run of blanks. -/
def normalize (s : String) : String :=
  String.ofList (collapse false (trimChars s.toList))

/-- Whether the text holds blanks only. -/
def isAllBlank (s : String) : Bool :=
  s.toList.all isBlank

end SaslClient.Text
