import Layerfile.Text.Lower
import Layerfile.Uri.Host
import Layerfile.Uri.Path

/-!
Document addresses. Two texts name the same document if they are read as the same
address: scheme and host in normal form, dot segments resolved, and characters that may not
stand in an address written by their codes.
-/

namespace Layerfile

structure Authority where
  user : String := ""
  /-- None if the text of the host is empty. -/
  host : Option Uri.Host := none
  number : Option Nat := none
deriving DecidableEq, Repr

structure Uri where
  scheme : String
  authority : Option Authority
  path : String
  query : Option String
  fragment : Option String
deriving DecidableEq, Repr

namespace Uri

/-! ### Schemes -/

/-- Schemes whose addresses have a host, and their usual numbers. -/
def specialNumbers : List (String × Option Nat) :=
  [("http", some 80), ("https", some 443), ("ws", some 80), ("wss", some 443), ("ftp", some 21),
    ("file", none)]

def isSpecial (scheme : String) : Bool := (specialNumbers.lookup scheme).isSome

/-- A scheme starts with a letter and ends before a colon. -/
def scheme? (text : List Char) : Option (String × List Char) :=
  let isSchemeChar c := Char.isAlphanum c || c == '+' || c == '-' || c == '.'
  match text, text.dropWhile isSchemeChar with
  | c :: _, ':' :: rest =>
    if c.isAlpha then some (Text.lower (String.ofList (text.takeWhile isSchemeChar)), rest)
    else none
  | _, _ => none

/-! ### Authorities -/

/-- User and password. Empty parts are left out. -/
def userInfo (text : List Char) : String :=
  let (name, password) := Text.splitFirst ':' text
  let secret := encode userSet (password.getD [])
  encode userSet name ++ (if secret.isEmpty then "" else ":") ++ secret

def splitHost (inside : Bool) : List Char → List Char × Option (List Char)
  | [] => ([], none)
  | c :: rest =>
    if c == ':' && !inside then ([], some rest)
    else
      let (host, after) := splitHost (c == '[' || (inside && c != ']')) rest
      (c :: host, after)

/-- The number behind a host and what follows it. The usual number of a scheme is left out. -/
def number? (usual : Option Nat) (text : List Char) : Option (Option Nat × List Char) :=
  let digits := text.takeWhile Char.isDigit
  let rest := text.dropWhile Char.isDigit
  let number := (Text.number? 10 digits).filter (some · != usual)
  if Text.digitsValue 10 digits < 65536 && (rest.isEmpty || rest.head? == some '\\') then
    some (number, rest)
  else none

/-- User, host and number, and what follows them. `more` says whether the address goes on. -/
def authority? (scheme : String) (more : Bool) (text : List Char) :
    Option (Authority × List Char) := do
  let special := isSpecial scheme
  let (name, site) := match Text.splitLast? '@' text with
    | some (name, site) => (some name, site)
    | none => (none, text)
  let user := (name.map userInfo).getD ""
  let (host, after) := splitHost false site
  if host.isEmpty then
    if special || after.isSome || !user.isEmpty || (name == some [] && more) then none
    else return ({ user }, [])
  else
    let host ← Host.read? special host
    let (number, rest) ← number? (specialNumbers.lookup scheme).join (after.getD [])
    return ({ user, host := some host, number }, rest)

/-! ### Whole addresses -/

/-- Without control characters and blanks around it, and without tabs and line ends. -/
def clean (text : List Char) : List Char :=
  let isOuter c := decide (Char.toNat c ≤ 0x20)
  let inner := ((text.dropWhile isOuter).reverse.dropWhile isOuter).reverse
  inner.filter fun c => c != '\t' && c != '\n' && c != '\r'

/-- The host of a file. The name `localhost` is none. -/
def fileHost? (name : List Char) : Option (Option Host) :=
  if name.isEmpty then some none
  else (Host.read? true name).map fun host =>
    if host = .domain "localhost" then none else some host

/-- Host and path of a file. A file on a drive has no host. -/
def filePlace? (rest : List Char) : Option (Authority × String) :=
  let (name, path) := match rest with
    | a :: b :: place =>
      if isSlash true a && isSlash true b then
        (place.takeWhile (!isSlash true ·), place.dropWhile (!isSlash true ·))
      else ([], rest)
    | _ => ([], rest)
  if Path.isDrive name then
    some ({}, Path.write (Path.unpadded (Path.fileSegments true (name ++ path))))
  else do
    let host ← fileHost? name
    let segments := Path.fileSegments host.isSome path
    let onDrive := segments.head?.any Path.isDrive
    return ({ host := if onDrive then none else host }, Path.write (Path.unpadded segments))

/-- Authority and path. `more` says whether a query or a fragment follows. -/
def place? (scheme : String) (more : Bool) (rest : List Char) :
    Option (Option Authority × String) :=
  if scheme = "file" then (filePlace? rest).map fun (authority, path) => (some authority, path)
  else if isSpecial scheme then do
    let place := rest.dropWhile (isSlash true)
    let path := place.dropWhile (!isSlash true ·)
    let (authority, _) ← authority? scheme true (place.takeWhile (!isSlash true ·))
    return (some authority, Path.write (Path.segments true path))
  else
    match rest with
    | '/' :: '/' :: place => do
      let path := place.dropWhile (· != '/')
      let (authority, after) ←
        authority? scheme (more || !path.isEmpty) (place.takeWhile (· != '/'))
      let path := after ++ path
      return (some authority, if path.isEmpty then "" else Path.write (Path.segments false path))
    | '/' :: _ => some (none, Path.write (Path.segments false rest))
    | _ => some (none, encode [] rest)

/-- Reads an address, none if the text has no scheme or no proper host. -/
def read? (text : String) : Option Uri := do
  let (scheme, rest) ← scheme? (clean text.toList)
  let (rest, fragment) := Text.splitFirst '#' rest
  let (rest, query) := Text.splitFirst '?' rest
  let (authority, path) ← place? scheme (query.isSome || fragment.isSome) rest
  return { scheme, authority, path,
           query := query.map (encode (querySet (isSpecial scheme))),
           fragment := fragment.map (encode fragmentSet) }

end Uri

end Layerfile
