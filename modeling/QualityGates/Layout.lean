import QualityGates.Path

/-!
# The layout of a documented project

Where a project keeps what the gates read, seen from its root.
-/

namespace QualityGates

/-- The places of a project. -/
structure Layout where
  root : Path
  /-- The first document that is checked. -/
  readme : Path
  /-- The directory of the other documents. -/
  docs : Path
  /-- The build manifest, which holds the release version. -/
  manifest : Path
  /-- The configuration of the gates. -/
  config : Path
  deriving Repr, Inhabited

namespace Layout

/-- The name of the configuration file. -/
def configName : String := "ci-gates.yaml"

/-- The layout of the project with a root. -/
def ofRoot (root : Path) : Layout where
  root := root
  readme := root.child "README.md"
  docs := root.child "docs"
  manifest := root.child "pom.xml"
  config := root.child configName

/-- A path below the root as it is shown and matched. -/
def relative (l : Layout) (p : Path) : String :=
  l.root.relativeTo p

end Layout
end QualityGates
