import Layerfile.Config.Layer
import Layerfile.FileTree

/-!
Configuration from files in a directory.
-/

namespace Layerfile

/-- Configuration files may be named without this extension. -/
def configExtension : String := ".toml"

/-- The file that a language server looks for in its directory. -/
def serverConfig : String := "layerfile-lsp.toml"

namespace FileTree

def layer (tree : FileTree) (required : Bool) (path : String) : Layer :=
  .file required (tree.readWith? configExtension path)

def settings (tree : FileTree) (config : Option String) : Except ConfigError Settings :=
  Config.load (config.map (tree.layer true)).toList

def serverSettings (tree : FileTree) : Except ConfigError Settings :=
  Config.load [tree.layer false serverConfig]

end FileTree

end Layerfile
