import Layerfile.Config.Layer
import Mathlib.Data.List.Basic

/-! Where layers stand. The keys of overrides are read before any file and their values are set
behind all files, so only the order of the files among themselves and of the overrides among
themselves counts. -/

namespace Layerfile

/-! ### Kinds of layers -/

namespace Layer

def isOverride : Layer → Bool
  | .override _ _ => true
  | .file _ _ => false

end Layer

namespace Step

end Step

namespace Config

/-! ### Only the order within a kind counts -/

end Config

end Layerfile
