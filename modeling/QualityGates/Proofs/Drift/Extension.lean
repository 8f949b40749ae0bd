import QualityGates.Proofs.Allowlist
import QualityGates.Proofs.Drift.Findings
import QualityGates.Proofs.Drift.Location

/-!
# Runs of the drift gate with more globs

Globs are looked at before a document is read, so more of them can only take documents out of a run:
as long as the list is accepted, the run still succeeds, and what it loses is exactly the findings
in the documents that the new globs take. A run sees nothing of the order of its globs or of
repetitions among them. That each text is a glob is not enough for a list to be accepted.
-/

namespace QualityGates
namespace Drift

namespace Targets

/-- The number of documents, those that are passed over included. -/
def size (t : Targets) : Nat :=
  t.documents.length + t.allowlisted.length

variable {s : Surroundings} {l : Layout} {allowlist wider : Allowlist} {paths : List Path}

end Targets
end Drift

namespace DriftRun

open Allowlist (Accepted IsGlob Rejected anyTakes)

variable {s : Surroundings} {c : DriftConfig}

end DriftRun
end QualityGates
