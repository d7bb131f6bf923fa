import ScriptAudit.Rule.Logic
import ScriptAudit.Rule.Performance
import ScriptAudit.Rule.Security
import ScriptAudit.Rule.Syntactic

/-!
# The built-in rules

* `Family.builtin` : the four families, in the order in which reports list them.
* `Detector.builtin` : the same as detectors.
-/

namespace ScriptAudit

/-- The built-in families; a function may span `longest` lines. -/
def Family.builtin (longest : Number) : List Family :=
  [Family.syntactic, Family.logic, Family.performance longest, Family.security]

/-- The built-in detectors. -/
def Detector.builtin (longest : Number) : List Detector :=
  (Family.builtin longest).map Family.detector

end ScriptAudit
