import Layerfile.Keyed

/-!
Files below a working directory. A path is walked name by name; a directory is whatever
stands on the way to a file.
-/

namespace Layerfile

structure FileTree where
  files : List (List String × ByteArray) := []

inductive ReadError where
  | notFound
  | isDirectory
  | notDirectory
  | notText
deriving DecidableEq, Repr

def ReadError.message : ReadError → String
  | notFound => "No such file or directory (os error 2)"
  | isDirectory => "Is a directory (os error 21)"
  | notDirectory => "Not a directory (os error 20)"
  | notText => "stream did not contain valid UTF-8"

/-- Where a walk stands. Above the working directory nothing is known but directories. -/
inductive Spot where
  | directory (way : List String)
  | above
  | file (content : ByteArray)

def pathNames (path : String) : List String :=
  (path.toList.splitOn '/').map String.ofList

/-- Names that stay where they are. -/
def isIdle (name : String) : Bool :=
  name == "" || name == "."

namespace FileTree

/-- A tree of named files. Of several with the same name the last counts. -/
def ofFiles (files : List (String × ByteArray)) : FileTree where
  files := files.foldl (fun known (name, content) =>
    put ((pathNames name).filter (!isIdle ·)) content known) []

/-- The working directory itself is a directory, and so is all that lies above a file. -/
def isDirectory (tree : FileTree) (way : List String) : Bool :=
  way.isEmpty || tree.files.any fun file => way.isPrefixOf file.1 && way.length < file.1.length

/-- Takes a name from a directory. -/
def enter (tree : FileTree) (way : List String) (name : String) : Except ReadError Spot :=
  if isIdle name then .ok (.directory way)
  else if name = ".." then .ok (if way.isEmpty then .above else .directory way.dropLast)
  else
    let next := way ++ [name]
    match tree.files.lookup next with
    | some content => .ok (.file content)
    | none => if tree.isDirectory next then .ok (.directory next) else .error .notFound

def step (tree : FileTree) (name : String) : Spot → Except ReadError Spot
  | .directory way => tree.enter way name
  | .above => if isIdle name || name == ".." then .ok .above else .error .notFound
  | .file _ => .error .notDirectory

/-- Where a path leads. A path that starts with a slash starts above the working directory, and
the empty path leads nowhere. -/
def resolve (tree : FileTree) (path : String) : Except ReadError Spot :=
  match pathNames path with
  | [""] => .error .notFound
  | "" :: names => names.foldlM (fun spot name => tree.step name spot) .above
  | names => names.foldlM (fun spot name => tree.step name spot) (.directory [])

def file? (tree : FileTree) (path : String) : Option ByteArray :=
  match tree.resolve path with
  | .ok (.file content) => some content
  | _ => none

def read (tree : FileTree) (path : String) : Except ReadError String :=
  match tree.resolve path with
  | .ok (.file content) =>
    match String.fromUTF8? content with
    | some text => .ok text
    | none => .error .notText
  | .ok _ => .error .isDirectory
  | .error cause => .error cause

/-! ### Files with an extension left out -/

/-- The path with `extension` behind its last name, none if it has no such name. -/
def withExtension? (extension path : String) : Option String :=
  match (pathNames path).reverse.dropWhile isIdle with
  | [] | ".." :: _ => none
  | name :: names => some ("/".intercalate ((name ++ extension) :: names).reverse)

/-- The text of a file that may be named without its extension, none if there is no file or it
is not text. The exact name is preferred. -/
def readWith? (tree : FileTree) (extension path : String) : Option String := do
  let content ← tree.file? path <|> (withExtension? extension path).bind tree.file?
  String.fromUTF8? content

end FileTree

end Layerfile
