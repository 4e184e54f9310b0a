import MeterSight.Montage

/-!
# File trees

A written file changes what lies at its own place. The way there was walked before, so that no
directory comes to be, and no other path leads elsewhere or to something else than before.
-/
namespace MeterSight
namespace Files
variable {files written : Files} {place other : List String} {path : String} {img : RgbaImage}

end Files

namespace Montage

end Montage
end MeterSight
