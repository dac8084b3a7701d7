import Layerfile.Text.Split
import Layerfile.Uri.Percent

/-!
Paths of addresses. The segments `.` and `..` are resolved.
-/

namespace Layerfile.Uri

def isSlash (special : Bool) (c : Char) : Bool :=
  c == '/' || (special && c == '\\')

namespace Path

def isDrive : List Char → Bool
  | [c, mark] => c.isAlpha && (mark == ':' || mark == '|')
  | _ => false

/-- A segment that is the letter of a drive, or has more behind a backslash. -/
def startsDrive (segment : List Char) : Bool :=
  isDrive (segment.take 2) && (segment.drop 2).head?.all (· == '\\')

/-- A segment in which dots that are written by their codes are written out. -/
def dots (segment : List Char) : List Char :=
  go (segment.map Char.toLower)
where
  go : List Char → List Char
    | '%' :: '2' :: 'e' :: rest => '.' :: go rest
    | c :: rest => c :: go rest
    | [] => []

/-- Takes back the last segment, but no drive. -/
def shorten (done : List (List Char)) : List (List Char) :=
  if done.getLast?.any startsDrive then done else done.dropLast

/-- Resolves segments behind others. At the end of a path `.` and `..` leave an empty
segment. The drive of a file is marked by a colon. -/
def resolve (file : Bool) (done : List (List Char)) : List (List Char) → List (List Char)
  | [] => done
  | segment :: later =>
    let atEnd := if later.isEmpty then [[]] else []
    if dots segment = ['.', '.'] then resolve file (shorten done ++ atEnd) later
    else if dots segment = ['.'] then resolve file (done ++ atEnd) later
    else if file && done.isEmpty && isDrive segment then
      resolve file [segment.take 1 ++ [':']] later
    else resolve file (done ++ [segment]) later

def rootless (special : Bool) (text : List Char) : List Char :=
  match text with
  | c :: rest => if isSlash special c then rest else text
  | [] => []

def segments (special : Bool) (text : List Char) : List (List Char) :=
  resolve false [] (Text.splitWhere (isSlash special) (rootless special text))

/-- The segments of the path of a file. Without a host the slash at the start divides
segments as any other. -/
def fileSegments (hosted : Bool) (text : List Char) : List (List Char) :=
  resolve true [] (Text.splitWhere (isSlash true) (if hosted then rootless true text else text))

/-- Segments without the empty ones at the start. -/
def unpadded (segments : List (List Char)) : List (List Char) :=
  match segments.dropWhile List.isEmpty with
  | [] => [[]]
  | first :: later => first :: later

def write (segments : List (List Char)) : String :=
  String.join (segments.map fun segment => "/" ++ encode pathSet segment)

end Path

end Layerfile.Uri
