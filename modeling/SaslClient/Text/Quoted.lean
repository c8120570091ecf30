import SaslClient.Text.DisplayTables
import SaslClient.Bytes.Hex

/-!
# Quoted text

A text between double quotes, for display. Whatever a reader could not see or would misread is
written as an escape: quotes, backslashes, controls, and every character without a form of its own.
-/

namespace SaslClient.Text

/-- The digits of a number in base sixteen, without leading zeros. -/
def hexNumber (n : Nat) : List Char :=
  if _h : n < 16 then [Hex.digit n] else hexNumber (n / 16) ++ [Hex.digit (n % 16)]
termination_by n
decreasing_by omega

/-- A character by its code point in braces. -/
def codePointEscape (c : Char) : List Char :=
  ['\\', 'u', '\x7b'] ++ hexNumber c.toNat ++ ['\x7d']

/-- How one character is shown between quotes. -/
def escapeChar (c : Char) : List Char :=
  if c = '\x00' then ['\\', '0']
  else if c = '\t' then ['\\', 't']
  else if c = '\r' then ['\\', 'r']
  else if c = '\n' then ['\\', 'n']
  else if c = '"' then ['\\', '"']
  else if c = '\\' then ['\\', '\\']
  else if shapeless.contains c || unprintable.contains c then codePointEscape c
  else [c]

/-- The text between double quotes. -/
def quote (s : String) : String :=
  String.ofList ('"' :: (s.toList.flatMap escapeChar ++ ['"']))

end SaslClient.Text
