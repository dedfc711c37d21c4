import Mathlib.Data.List.Rotate
import Mathlib.Data.List.Chain
import Mathlib.Logic.Relation
import Mathlib.Order.Defs.LinearOrder

/-! Cycles of a relation as closed paths, and their rotations. -/

namespace Graph

open Relation List

variable {α : Type}

end Graph
