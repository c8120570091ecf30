import SaslClient.Http.Percent

/-!
# Paths in addresses

A path is a row of segments, each behind a slash. Segments of one or two dots are steps in the path
and not part of it. The name of a drive, a letter with a colon or a bar, is never stepped out of.
-/

namespace SaslClient.Http.Path

/-- Both slants count as slashes in the address of a known scheme. -/
def isSlash (isKnown : Bool) (c : Char) : Bool :=
  c = '/' || (isKnown && c = '\\')

/-- Whether a segment stays where it is. A dot may be written as a byte. -/
def isDot (segment : List Char) : Bool :=
  [".", "%2e"].contains (String.ofList (segment.map Char.toLower))

/-- Whether a segment goes one step back. -/
def isDoubleDot (segment : List Char) : Bool :=
  ["..", "%2e.", ".%2e", "%2e%2e"].contains (String.ofList (segment.map Char.toLower))

/-- Whether a segment is the name of a drive. -/
def isDrive : List Char → Bool
  | [c, sign] => c.isAlpha && (sign = ':' || sign = '|')
  | _ => false

/-- The segments without the last one, unless it is the name of a drive. -/
def back (segments : List (List Char)) : List (List Char) :=
  if (segments.getLast?).any isDrive then segments else segments.dropLast

/-- A segment as it is written. The first one of a file may name a drive, with a colon. -/
def written (isFile isFirst : Bool) (segment : List Char) : List Char :=
  if isFile && isFirst && isDrive segment then segment.take 1 ++ [':']
  else Percent.encode Percent.inPath segment

/-- Adds segments to those before. A step at the end leaves an empty segment. -/
def add (isFile : Bool) (before : List (List Char)) : List (List Char) → List (List Char)
  | [] => before
  | segment :: rest =>
    let gap := if rest.isEmpty then [[]] else []
    let next :=
      if isDoubleDot segment then back before ++ gap
      else if isDot segment then before ++ gap
      else before ++ [written isFile before.isEmpty segment]
    add isFile next rest

/-- The segments of a text that begins behind a slash. -/
def segments (isKnown isFile : Bool) (cs : List Char) : List (List Char) :=
  add isFile [] (cs.splitOnP (isSlash isKnown))

/-- Segments as a path. -/
def text (segments : List (List Char)) : List Char :=
  segments.flatMap ('/' :: ·)

/-- The path of a file has a single slash in front. -/
def fileText (segments : List (List Char)) : List Char :=
  '/' :: (text segments).dropWhile (· == '/')

end SaslClient.Http.Path
