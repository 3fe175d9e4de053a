import Coursework.Url.Percent

/-!
# Paths of addresses

A path is normalised: a segment of one dot is left out, one of two dots takes the segment before
it away, and characters that may not stand for themselves are percent-coded. A drive letter is
never taken away. Which characters separate segments depends on the scheme: where a host is
understood, a backslash does like a slash.
-/

namespace Coursework.Url

/-- The character separates segments where a backslash does. -/
def isSeparator (c : Char) : Bool := c = '/' || c = '\\'

/-- The runs of characters between separators; at least one, perhaps empty. -/
def runsBetween (separates : Char → Bool) : List Char → List (List Char)
  | [] => [[]]
  | c :: rest =>
    match runsBetween separates rest with
    | [] => [[c]]
    | run :: runs => if separates c then [] :: run :: runs else (c :: run) :: runs

/-- What a segment does to the path. -/
inductive SegmentKind where
  | ordinary
  | singleDot
  | doubleDot
  deriving DecidableEq

/-- The kind of a segment. A dot may be percent-coded. -/
def segmentKind (segment : String) : SegmentKind :=
  let lower := segment.toLower
  if [".", "%2e"].contains lower then .singleDot
  else if ["..", ".%2e", "%2e.", "%2e%2e"].contains lower then .doubleDot
  else .ordinary

/-- The letter of a drive, if the segment is one with its mark. -/
def driveLetter? (segment : String) : Option Char :=
  match segment.toList with
  | [letter, mark] => if letter.isAlpha && (mark = ':' || mark = '|') then some letter else none
  | _ => none

/-- The segments without the last one, unless that is a drive. They are in reverse order. -/
def withoutLast : List String → List String
  | [] => []
  | last :: before => if (driveLetter? last).isSome then last :: before else before

/-- The segments of a path without dots. The segments so far are in reverse order; a path that
ends in dots ends in a slash. -/
def withoutDots (reversed : List String) : List String → List String
  | [] => reversed.reverse
  | segment :: rest =>
    match segmentKind segment with
    | .ordinary => withoutDots (segment :: reversed) rest
    | .singleDot =>
      if rest.isEmpty then ("" :: reversed).reverse else withoutDots reversed rest
    | .doubleDot =>
      if rest.isEmpty then ("" :: withoutLast reversed).reverse
      else withoutDots (withoutLast reversed) rest

/-- The segments that characters write, without dots. -/
def segmentsOf (separates : Char → Bool) (cs : List Char) : List String :=
  withoutDots [] ((runsBetween separates cs).map String.ofList)

/-- The text of segments, with a slash before each. -/
def pathOf (segments : List String) : String :=
  "/" ++ "/".intercalate (segments.map (percentEncode keptInPath))

/-- The characters without one separator in front. -/
def dropSeparator (separates : Char → Bool) : List Char → List Char
  | [] => []
  | c :: rest => if separates c then rest else c :: rest

/-- The normal form of a path, which begins with a slash. One separator in front does not count. -/
def normalPath (separates : Char → Bool) (cs : List Char) : String :=
  pathOf (segmentsOf separates (dropSeparator separates cs))

end Coursework.Url
