import Mathlib.Data.List.MinMax
import Mathlib.Data.List.Sort
import Mathlib.Data.String.Basic
import Mathlib.Logic.Relation

/-! The search for cycles between packages in `validate_architecture.py`.
`frames` counts the nested calls the interpreter still allows; a result of `none` is an
exception.
-/

namespace WorkflowForge.Architecture

/-- `edges`: a mapping with each package once, and for each package the elements of its set
of dependencies in some order. -/
structure DependencyGraph where
  edges : List (String × List String)
  distinct : (edges.map Prod.fst).Nodup

namespace DependencyGraph

/-- `graph.edges.get(package, ())`. -/
def dependencies (graph : DependencyGraph) (package : String) : List String :=
  (graph.edges.lookup package).getD []

end DependencyGraph

end WorkflowForge.Architecture
