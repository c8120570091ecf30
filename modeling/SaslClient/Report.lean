/-!
# Error reports

What a command line tells about a failure: what it was doing, and the causes from the outermost to
the innermost. Several causes are numbered, and the lines of a cause are indented alike.
-/

namespace SaslClient

/-- A failure and its causes. -/
structure Report where
  message : String
  causes : List String := []
deriving DecidableEq, Repr

namespace Report

/-- The characters with an indent behind each line break. -/
def indentLines (indent : List Char) (cs : List Char) : List Char :=
  cs.flatMap fun c => if c = '\n' then c :: indent else [c]

/-- A cause on its own. -/
def singleCause (cause : String) : String :=
  "\n    " ++ String.ofList (indentLines (List.replicate 4 ' ') cause.toList)

/-- A number, right-aligned in five columns. -/
def causeNumber (n : Nat) : String :=
  let digits := toString n
  String.ofList (List.replicate (5 - digits.length) ' ') ++ digits

/-- One of several causes. -/
def numberedCause (n : Nat) (cause : String) : String :=
  "\n" ++ causeNumber n ++ ": " ++
    String.ofList (indentLines (List.replicate 7 ' ') cause.toList)

/-- The causes, each on a line of its own. -/
def causeLines : List String → String
  | [] => ""
  | [cause] => "\n\nCaused by:" ++ singleCause cause
  | causes =>
    "\n\nCaused by:" ++ String.join (causes.mapIdx fun n cause => numberedCause n cause)

/-- The report, as it is printed. -/
def text (r : Report) : String :=
  "Error: " ++ r.message ++ causeLines r.causes ++ "\n"

end Report

end SaslClient
