import SaslClient.Text.Count

/-!
# Numbers

Which texts are numbers: decimals with perhaps a sign, a point and an exponent, and the names of
infinity and of what is no number.
-/

namespace SaslClient.Text

/-- The characters without a sign in front. -/
def unsigned (cs : List Char) : List Char :=
  match cs with
  | '+' :: rest => rest
  | '-' :: rest => rest
  | cs => cs

/-- Whether the text is a power of ten, or nothing at all. -/
def isExponent (cs : List Char) : Bool :=
  match cs with
  | [] => true
  | e :: rest =>
    let digits := unsigned rest
    (e = 'e' || e = 'E') && !digits.isEmpty && digits.all isDigit

/-- Whether the text is a decimal without a sign: digits with perhaps a point, and an exponent. -/
def isDecimal (cs : List Char) : Bool :=
  let whole := cs.takeWhile isDigit
  let behind := cs.dropWhile isDigit
  match behind with
  | '.' :: rest =>
    !(whole.isEmpty && (rest.takeWhile isDigit).isEmpty) && isExponent (rest.dropWhile isDigit)
  | behind => !whole.isEmpty && isExponent behind

/-- The names of numbers that are no decimals, in lower case. -/
def numberNames : List (List Char) :=
  ["inf", "infinity", "nan"].map String.toList

/-- Whether the text is a number. -/
def isNumber (cs : List Char) : Bool :=
  let cs := unsigned cs
  isDecimal cs || numberNames.contains (cs.map Char.toLower)

end SaslClient.Text
