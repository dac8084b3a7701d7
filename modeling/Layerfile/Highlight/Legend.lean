import Layerfile.Keyed

/-!
The highlighting vocabulary. A legend lists category and modifier names; encoded
rows refer to them by position. Positions are not bounded here: a row has 32 bits for
one, which is enough for every legend of fewer than 2^32 names.
-/

namespace Layerfile

inductive Category where
  | comment
  | string
  | keyword
  | number
  | regexp
  | operator
  | namespaceName
  | typeName
  | structName
  | className
  | interfaceName
  | enumName
  | typeParameter
  | function
  | method
  | decorator
  | macroName
  | variableName
  | parameter
  | property
  | label
deriving DecidableEq, Repr

inductive Modifier where
  | declaration
  | documentation
  | readonly
  | static
  | abstract
  | deprecated
  | modification
  | async
deriving DecidableEq, Repr

namespace Category

def all : List Category :=
  [comment, string, keyword, number, regexp, operator, namespaceName, typeName, structName,
    className, interfaceName, enumName, typeParameter, function, method, decorator, macroName,
    variableName, parameter, property, label]

def name : Category → String
  | comment => "comment"
  | string => "string"
  | keyword => "keyword"
  | number => "number"
  | regexp => "regexp"
  | operator => "operator"
  | namespaceName => "namespace"
  | typeName => "type"
  | structName => "struct"
  | className => "class"
  | interfaceName => "interface"
  | enumName => "enum"
  | typeParameter => "typeParameter"
  | function => "function"
  | method => "method"
  | decorator => "decorator"
  | macroName => "macro"
  | variableName => "variable"
  | parameter => "parameter"
  | property => "property"
  | label => "label"

def ofName? (text : String) : Option Category :=
  all.find? fun category => category.name == text

end Category

namespace Modifier

def all : List Modifier :=
  [declaration, documentation, readonly, static, abstract, deprecated, modification, async]

def name : Modifier → String
  | declaration => "declaration"
  | documentation => "documentation"
  | readonly => "readonly"
  | static => "static"
  | abstract => "abstract"
  | deprecated => "deprecated"
  | modification => "modification"
  | async => "async"

def ofName? (text : String) : Option Modifier :=
  all.find? fun modifier => modifier.name == text

end Modifier

structure Legend where
  categories : List String
  modifiers : List String
deriving DecidableEq, Repr

namespace Legend

def standard : Legend where
  categories := Category.all.map Category.name
  modifiers := Modifier.all.map Modifier.name

/-- The names of a list, each under its first position. -/
def firstPositions (names : List String) : List (String × Nat) :=
  names.zipIdx.foldl (fun index entry => putNew entry.1 entry.2 index) []

/-- First position of a category name; a name that is not listed counts as the first. -/
def indexOf (legend : Legend) (name : String) : Nat :=
  ((firstPositions legend.categories).lookup name).getD 0

/-- Sets the bit of every modifier that the legend lists among its first 32 positions. -/
def bitset (legend : Legend) (modifiers : List Modifier) : Nat :=
  let index := firstPositions legend.modifiers
  let positions := modifiers.filterMap fun modifier => index.lookup modifier.name
  (positions.filter (· < 32)).foldl (fun bits position => bits ||| (1 <<< position)) 0

end Legend

end Layerfile
