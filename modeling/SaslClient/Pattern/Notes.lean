import SaslClient.Pattern.Check

/-!
# Showing what is wrong with a pattern

The pattern is shown with carets under the stretch that is wrong. A pattern of several lines is
shown between rules with its lines numbered, and a stretch over several lines is given in words.
-/

namespace SaslClient.Pattern

/-- The lines of a text. A line feed ends a line, perhaps behind a carriage return. -/
def linesOf (cs : List Char) : List (List Char) :=
  let lines := cs.splitOn '\n'
  let ended := lines.dropLast.map fun line =>
    if line.getLast? = some '\r' then line.dropLast else line
  match lines.getLast? with
  | some (c :: rest) => ended ++ [c :: rest]
  | _ => ended

namespace Fault

/-- The stretches to point at, in the order of the text. -/
def spans (f : Fault) : List Span :=
  f.earlier.toList ++ [f.span]

/-- Carets under stretches of one line, in the order of the line, with `column` columns before. -/
def carets (column : Nat) : List Span → List Char
  | [] => []
  | s :: rest =>
    let blanks := s.first.column - 1 - column
    let marks := max 1 (s.last.column - s.first.column)
    List.replicate blanks ' ' ++ List.replicate marks '^' ++ carets (column + blanks + marks) rest

/-- A number, right-aligned in some columns. -/
def lineNumber (width n : Nat) : List Char :=
  let digits := (toString n).toList
  List.replicate (width - digits.length) ' ' ++ digits

/-- One line of a pattern and the carets under it. -/
def noted (front : List Char) (spans : List Span) (line : List Char) : List Char :=
  front ++ line ++ ['\n'] ++
    if spans.isEmpty then []
    else List.replicate front.length ' ' ++ carets 0 spans ++ ['\n']

/-- The stretches that stay on the line with a number. -/
def spansOn (f : Fault) (n : Nat) : List Span :=
  f.spans.filter fun s => s.isOneLine && s.first.line == n

/-- A stretch over several lines, in words. -/
def inWords (s : Span) : String :=
  "on line " ++ toString s.first.line ++ " (column " ++ toString s.first.column ++
    ") through line " ++ toString s.last.line ++ " (column " ++ toString (s.last.column - 1) ++ ")"

/-- A pattern of one line with carets under it. -/
def showLine (f : Fault) (pattern : List Char) : String :=
  String.ofList (noted (List.replicate 4 ' ') f.spans pattern)

/-- The rule above and below several lines. -/
def rule : String :=
  String.ofList (List.replicate 79 '~' ++ ['\n'])

/-- A pattern of several lines, numbered, with carets under them. -/
def showLines (f : Fault) (pattern : List Char) : String :=
  let width := (toString (pattern.splitOn '\n').length).length
  let lines := (linesOf pattern).mapIdx fun i line =>
    noted (lineNumber width (i + 1) ++ [':', ' ']) (f.spansOn (i + 1)) line
  let long := f.spans.filter fun s => !s.isOneLine
  let words := if long.isEmpty then "" else "\n".intercalate (long.map inWords) ++ "\n"
  rule ++ String.ofList lines.flatten ++ rule ++ words

/-- What is wrong with a pattern, shown in it. -/
def text (f : Fault) (pattern : List Char) : String :=
  let shown := if pattern.contains '\n' then f.showLines pattern else f.showLine pattern
  "regex parse error:\n" ++ shown ++ "error: " ++ f.problem.message

end Fault

/-- Why a pattern is refused, from the outermost cause to the innermost. -/
def Refusal.causes (pattern : List Char) : Refusal → List String
  | .fault f => ["error building NFA", "error parsing regex", f.text pattern]
  | .wordEdge =>
    ["unsupported regex feature for DFAs: cannot build DFAs for regexes with Unicode word " ++
      "boundaries; switch to ASCII word boundaries, or heuristically enable Unicode word " ++
      "boundaries or use a different regex engine"]

end SaslClient.Pattern
