import WorkflowForge.Infrastructure.World

/-! Filters, order and pages of the list queries. -/

namespace WorkflowForge

open Python

/-- `LIKE`: `%` stands for any text, `_` for one character, a backslash quotes the next one. -/
def like : Text → Text → Bool
  | [], text => text.isEmpty
  | '%' :: pattern, text => text.tails.any (like pattern)
  | '_' :: pattern, text => !text.isEmpty && like pattern text.tail
  | '\\' :: c :: pattern, text => text.head? == some c && like pattern text.tail
  | c :: pattern, text => text.head? == some c && like pattern text.tail

/-- `column.ilike(f"%{part}%")`, for parts that a parameter can carry: a text without U+0000. -/
def containsIlike (u : Unicode) (column part : Text) : Bool :=
  like (u.lower ('%' :: part ++ ['%'])) (u.lower column)

example : like "%b_t\\%%".toList "a bat% x".toList = true := by decide

/-- The filter on a status or on being archived; a given status wins. -/
def statusMatches {σ : Type} [DecidableEq σ] (archivedStatus : σ) (status : Option σ)
    (archived : Option Bool) (actual : σ)
    : Bool :=
  match status, archived with
  | some wanted, _ => actual == wanted
  | none, some true => actual == archivedStatus
  | none, some false => actual != archivedStatus
  | none, none => true

/-- `ORDER BY created_at DESC, id DESC`. -/
def newestFirst {α : Type} (createdAt : α → Timestamp) (id : α → UUID) (rows : List α)
    : List α :=
  rows.mergeSort (fun first second =>
    createdAt second < createdAt first
    || (createdAt first == createdAt second && id second ≤ id first))

/-- `LIMIT` and `OFFSET`, which the database refuses when negative. Both are BIGINT parameters:
numbers from `2 ^ 63` on are no domain of this definition. -/
def page {α : Type} (limit offset : Int) (rows : List α) : Except Exn (List α) :=
  if limit < 0 ∨ offset < 0 then .error .dataError
  else .ok ((rows.drop offset.toNat).take limit.toNat)

/-- `items`, `total`, `limit` and `offset` of a list page. -/
structure ListPage (α : Type) where
  items : List α
  total : Nat
  limit : Int
  offset : Int
  deriving DecidableEq

end WorkflowForge
