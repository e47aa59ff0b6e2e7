import PagedQuery.Text.Pieces
import PagedQuery.Url.Percent

/-!
# PagedQuery.Url.Path

Paths of segments.  Segments of one or two dots are steps within the path, and are gone in its
normal form; a segment that leads to a drive is not stepped out of.
-/

namespace PagedQuery.Url

/-! ## Segments with a meaning -/

def isSingleDot (s : List Char) : Bool :=
  let s := String.ofList (s.map Char.toLower)
  s == "." || s == "%2e"

def isDoubleDot (s : List Char) : Bool :=
  let s := String.ofList (s.map Char.toLower)
  s == ".." || s == ".%2e" || s == "%2e." || s == "%2e%2e"

/-- Whether a segment names a drive: a letter, and a colon or a bar. -/
def isDrive : List Char → Bool
  | [letter, mark] => letter.isAlpha && (mark == ':' || mark == '|')
  | _ => false

/-- Whether a segment leads to a drive: it names one, to which a backslash may add a path of
its own. -/
def leadsToDrive (s : List Char) : Bool :=
  isDrive (s.take 2) && (s.drop 2).head?.all (· == '\\')

/-! ## Steps -/

/-- Takes back the latest segment, which comes first, unless it leads to a drive. -/
def stepBack : List (List Char) → List (List Char)
  | s :: before => if leadsToDrive s then s :: before else before
  | [] => []

/-- A segment behind others as it is written.  The drive at the start of a file's path is
written with a colon. -/
def writtenSegment (isFile : Bool) (before : List (List Char)) (s : List Char) : List Char :=
  if isFile && before.isEmpty && isDrive s then s.take 1 ++ [':'] else percentEncode keepInPath s

/-- The segments of a path without those of one or two dots; `before` holds those in front,
the latest first.  Two dots take back the segment before them. -/
def resolveSegments (isFile : Bool) (before : List (List Char)) :
    List (List Char) → List (List Char)
  | [] => before.reverse
  | [s] =>
    if isDoubleDot s then ([] :: stepBack before).reverse
    else if isSingleDot s then ([] :: before).reverse
    else (writtenSegment isFile before s :: before).reverse
  | s :: rest =>
    if isDoubleDot s then resolveSegments isFile (stepBack before) rest
    else if isSingleDot s then resolveSegments isFile before rest
    else resolveSegments isFile (writtenSegment isFile before s :: before) rest

/-! ## Normal forms -/

/-- A slash; in special schemes a backslash is as good. -/
def isSlash (special : Bool) (c : Char) : Bool :=
  c == '/' || (special && c == '\\')

/-- Cuts at slashes. -/
def splitSlashes (special : Bool) : List Char → List (List Char)
  | [] => [[]]
  | c :: cs =>
    if isSlash special c then [] :: splitSlashes special cs
    else Text.consHead c (splitSlashes special cs)

/-- What follows the slash at the start, if there is one. -/
def dropSlash (special : Bool) : List Char → List Char
  | c :: cs => if isSlash special c then cs else c :: cs
  | [] => []

/-- Segments with a slash in front of each. -/
def pathText (segments : List (List Char)) : List Char :=
  segments.flatMap ('/' :: ·)

/-- The normal form of a path, which starts with a slash even if that is left out. -/
def normalPath (special : Bool) (cs : List Char) : List Char :=
  pathText (resolveSegments false [] (splitSlashes special (dropSlash special cs)))

/-- The segments of a file's path behind those of `before`. -/
def fileSegments (before : List (List Char)) (cs : List Char) : List (List Char) :=
  resolveSegments true before (splitSlashes true (dropSlash true cs))

/-- The path of a file; there is one slash at its start, however many are written. -/
def filePath (segments : List (List Char)) : List Char :=
  '/' :: (pathText segments).dropWhile (· == '/')

end PagedQuery.Url
