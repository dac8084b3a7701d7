import Layerfile.Config.Settings
import Layerfile.Highlight.Row
import Layerfile.Keyed
import Layerfile.Uri

/-!
The documents of a language server. Only the latest full text of a document counts, and
only documents whose scheme is among the configured ones are kept.
-/

namespace Layerfile

structure Server where
  schemes : List String
  mode : ValueSpan
  documents : List (Uri × String) := []
deriving DecidableEq, Repr

/-- What an editor tells about a document. -/
inductive DocumentEvent where
  | opened (uri : Uri) (text : String)
  /-- The full texts after each of several changes, in order. -/
  | changed (uri : Uri) (texts : List String)
  | closed (uri : Uri)
deriving DecidableEq, Repr

namespace Server

def start (settings : Settings) : Server where
  schemes := settings.documentSchemes
  mode := settings.valueSpan

def tracks (server : Server) (uri : Uri) : Bool :=
  server.schemes.contains uri.scheme

def store (server : Server) (uri : Uri) (text : String) : Server :=
  if server.tracks uri then { server with documents := put uri text server.documents } else server

def step (server : Server) : DocumentEvent → Server
  | .opened uri text => server.store uri text
  | .changed uri texts =>
    match texts.getLast? with
    | some text => server.store uri text
    | none => server
  | .closed uri => { server with documents := remove uri server.documents }

/-- The rows of a document, none if it is not kept. -/
def rows (server : Server) (uri : Uri) : Except PositionError (Option (List Row)) :=
  match server.documents.lookup uri with
  | some text => (highlightRows server.mode text).map some
  | none => .ok none

end Server

end Layerfile
