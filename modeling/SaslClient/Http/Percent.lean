import SaslClient.Bytes.Hex
import SaslClient.Text.Utf8

/-!
# Percent signs in addresses

A character that may not stand in some part of an address is written byte by byte, each byte as a
percent sign and two digits. Which characters that concerns depends on the part.
-/

namespace SaslClient.Http.Percent

/-- The bytes of a character. -/
def charBytes (c : Char) : Bytes :=
  Utf8.encode (String.singleton c)

/-- A byte as a percent sign and two digits. -/
def byte (b : UInt8) : List Char :=
  '%' :: (Hex.digits [b]).map Char.toUpper

/-- The characters, with those of a kind written byte by byte. -/
def encode (isWritten : Char → Bool) (cs : List Char) : List Char :=
  cs.flatMap fun c => if isWritten c then (charBytes c).flatMap byte else [c]

/-- The bytes that characters stand for. A percent sign without two digits stands for itself. -/
def decode : List Char → Bytes
  | [] => []
  | '%' :: a :: b :: rest =>
    if Hex.isDigit a && Hex.isDigit b then
      UInt8.ofNat (16 * Hex.value a + Hex.value b) :: decode rest
    else charBytes '%' ++ decode (a :: b :: rest)
  | c :: rest => charBytes c ++ decode rest

/-- Controls, and all characters beyond ASCII. -/
def isControl (c : Char) : Bool :=
  c.toNat < 0x20 || 0x7F ≤ c.toNat

/-- What is written byte by byte in a fragment. -/
def inFragment (c : Char) : Bool :=
  isControl c || c = ' ' || c = '"' || c = '<' || c = '>' || c.toNat = 0x60

/-- What is written byte by byte in a query; in a web address an apostrophe is too. -/
def inQuery (isWeb : Bool) (c : Char) : Bool :=
  isControl c || c = ' ' || c = '"' || c = '#' || c = '<' || c = '>' || (isWeb && c = '\'')

/-- What is written byte by byte in a path. -/
def inPath (c : Char) : Bool :=
  inFragment c || c = '#' || c = '?' || c = '\x7b' || c = '\x7d'

/-- What is written byte by byte in a user name or password. -/
def inLogin (c : Char) : Bool :=
  inPath c || "/:;=@[\\]^|".toList.contains c

end SaslClient.Http.Percent
