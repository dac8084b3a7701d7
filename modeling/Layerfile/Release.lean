/-!
The release that programs tell about.
-/

namespace Layerfile

def version : String := "0.1.0"

end Layerfile
