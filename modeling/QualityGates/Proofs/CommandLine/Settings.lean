import QualityGates.Proofs.CommandLine.Listing
import QualityGates.Proofs.Drift.Precedence
import QualityGates.Proofs.Text.Blank
import QualityGates.Proofs.Text.Separated

/-!
# Configurations that a listing rejects

A listing of rules is aborted by a bad configuration file, by a bad version and by literals that are
too large, as the drift gate is. It shows the globs without reading them, so a bad glob is only
found by the gate.
-/

namespace QualityGates

/-- Whether an error tells that a glob makes no sense. -/
def GateError.isGlob : GateError → Bool
  | .invalidGlob _ _ => true
  | _ => false

namespace CommandLine

variable {s : Surroundings} {o : DriftOptions} {json : Bool} {c : DriftConfig} {f : Failure}

/-! ## What a listing does not notice -/

end CommandLine
end QualityGates
