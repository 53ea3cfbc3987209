import TokenIntake.Proofs.Json.Data
import TokenIntake.Render.Table

namespace TokenIntake

namespace Value

end Value

namespace Render

end Render

end TokenIntake
