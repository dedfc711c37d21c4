import WorkflowForge.Transactions.Database

/-! A READ COMMITTED store: concurrent transactions with row locks and unique constraints.
Uncommitted writes and row locks carry the session that owns them. A statement sees the
committed rows and its own session's writes; it waits (`none`) while another session holds
a row it must lock, or has an uncommitted row that a unique constraint compares with its own.
A write that refers to rows anew locks them FOR KEY SHARE, which conflicts with FOR UPDATE and
with a deletion only. A statement that waits has done nothing yet: what it has locked or
inserted by then is not seen.
-/

namespace Transactions

variable {S : Schema}

/-- History variables of one session; no statement reads them.
`opened` is what its first SELECT saw, `snapshot` what was committed when its last SELECT or
DELETE ran, `missed` the rows whose UPDATE matched nothing, and `log` its commits: the writes
of each and the database each produced.
-/
structure History (S : Schema) where
  opened : Option (Db S) := none
  snapshot : Option (Db S) := none
  missed : List (S.Table × S.Key) := []
  log : List (List (Write S) × Db S) := []

/-- `reserved` marks the locks that SELECT FOR UPDATE has taken. -/
structure Store (S : Schema) where
  committed : Db S
  pending : List (Nat × Write S) := []
  locks : List (Nat × S.Table × S.Key) := []
  reserved : List (Nat × S.Table × S.Key) := []
  history : Nat → History S := fun _ => {}

/-- A constraint error reported by the database. -/
inductive Violation where
  | integrity
  | data
  deriving DecidableEq, Repr

/-- SQL statements. A SELECT says what it asks for and answers its whole snapshot, from which
the caller computes the rows. A locking SELECT and an UPDATE address one row by key: `chosen` is
the rest of the WHERE clause, `change` the rest of the WHERE clause and the SET clause.
-/
inductive Statement (S : Schema) where
  | select (query : S.Query)
  | selectForUpdate (t : S.Table) (k : S.Key) (chosen : S.Row t → Bool)
  | insert (t : S.Table) (row : S.Row t)
  | update (t : S.Table) (k : S.Key) (change : S.Row t → Option (S.Row t))
  | delete (t : S.Table) (chosen : S.Row t → Bool)
  | commit
  | rollback

namespace Statement

/-- Answers: snapshots, a constraint check, whether a row matched, or a row count. -/
abbrev Answer : Statement S → Type
  | select _ => Db S
  | selectForUpdate _ _ _ => Db S
  | insert _ _ => Except Violation Unit
  | update _ _ _ => Except Violation Bool
  | delete _ _ => Nat
  | commit => Unit
  | rollback => Unit

end Statement

/-- The rows that a write locks FOR KEY SHARE: the parents of a new row, and those that an
UPDATE refers to anew. -/
def Write.references (db : Db S) : Write S → List (S.Table × S.Key)
  | put t row =>
      match db.find? t (S.key t row) with
      | none => S.parents t row
      | some old => (S.parents t row).filter (fun parent => !(S.parents t old).contains parent)
  | remove _ _ => []

namespace Store

/-- The uncommitted writes of session `i`, oldest first. -/
def own (store : Store S) (i : Nat) : List (Write S) :=
  (store.pending.filter (fun entry => entry.1 == i)).map Prod.snd

/-- What a statement of session `i` sees. -/
def view (store : Store S) (i : Nat) : Db S :=
  Write.applyAll (store.own i) store.committed

/-- Another session holds the row lock. -/
def heldByOther (store : Store S) (i : Nat) (t : S.Table) (k : S.Key) : Bool :=
  store.locks.any (fun lock => lock.1 != i && decide (lock.2 = (t, k)))

/-- Another session has an uncommitted row with the same key or unique columns. -/
def contested (store : Store S) (i : Nat) (t : S.Table) (row : S.Row t) : Bool :=
  store.pending.any (fun entry =>
    entry.1 != i
    && (match entry.2.row? t with
        | some other => decide (S.key t other = S.key t row) || S.clash t row other
        | none => false))

/-- The row repeats the unique columns of a different visible row. -/
def duplicates (db : Db S) (t : S.Table) (row : S.Row t) : Bool :=
  (db t).any (fun other => decide (S.key t other ≠ S.key t row) && S.clash t row other)

/-- Another session is deleting the row. -/
def leaving (store : Store S) (i : Nat) (row : S.Table × S.Key) : Bool :=
  store.pending.any (fun entry =>
    entry.1 != i
    && (match entry.2 with
        | .remove t k => decide ((t, k) = row)
        | .put _ _ => false))

/-- Some visible row that blocks `row` is being deleted by another session. -/
def departing (store : Store S) (i : Nat) (t : S.Table) (row : S.Row t) : Bool :=
  (store.view i t).any (fun other =>
    (decide (S.key t other = S.key t row) || S.clash t row other)
    && store.leaving i (t, S.key t other))

/-- Another session has the row locked FOR UPDATE. -/
def reservedByOther (store : Store S) (i : Nat) (row : S.Table × S.Key) : Bool :=
  store.locks.any (fun lock =>
    lock.1 != i && decide (lock.2 = row) && store.reserved.contains lock)

/-- Another session keeps a row from being locked FOR KEY SHARE that the write refers to. -/
def barred (store : Store S) (i : Nat) (write : Write S) : Bool :=
  (write.references (store.view i)).any (fun row =>
    store.reservedByOther i row || store.leaving i row)

/-- Another session has the row locked FOR KEY SHARE. -/
def sharedByOther (store : Store S) (i : Nat) (t : S.Table) (k : S.Key) : Bool :=
  store.pending.any (fun entry =>
    entry.1 != i && (entry.2.references store.committed).contains (t, k))

/-- Another session keeps the row from being locked FOR UPDATE. -/
def withheld (store : Store S) (i : Nat) (t : S.Table) (k : S.Key) : Bool :=
  store.heldByOther i t k || store.sharedByOther i t k

def record (store : Store S) (i : Nat) (change : History S → History S) : Store S :=
  { store with history := Function.update store.history i (change (store.history i)) }

/-- Note what is committed when a session reads. -/
def reading (store : Store S) (i : Nat) : Store S :=
  store.record i (fun h => { h with snapshot := some store.committed })

/-- Note also the first snapshot of a session. -/
def opening (store : Store S) (i : Nat) : Store S :=
  store.record i (fun h =>
    { h with
      opened := h.opened.or (some (store.view i))
      snapshot := some store.committed })

/-- Lock a row FOR UPDATE. -/
def lock (store : Store S) (i : Nat) (t : S.Table) (k : S.Key) : Store S :=
  { store with
    locks := store.locks ++ [(i, t, k)]
    reserved := store.reserved ++ [(i, t, k)] }

/-- Add an uncommitted write and the lock on its row. -/
def stage (store : Store S) (i : Nat) (write : Write S) : Store S :=
  { store with
    pending := store.pending ++ [(i, write)]
    locks := store.locks ++ [(i, write.target)] }

/-- Drop the writes and locks of a session. -/
def release (store : Store S) (i : Nat) : Store S :=
  { store with
    pending := store.pending.filter (fun entry => entry.1 != i)
    locks := store.locks.filter (fun lock => lock.1 != i)
    reserved := store.reserved.filter (fun lock => lock.1 != i) }

/-- Execute one statement of session `i`; `none` means that it has to wait. -/
def exec (i : Nat) : (statement : Statement S) → Store S → Option (statement.Answer × Store S)
  | .select _, store => some (store.view i, store.opening i)
  | .selectForUpdate t k chosen, store =>
      match ((store.view i).find? t k).filter chosen with
      | none => some (store.view i, store.opening i)
      | some _ =>
          if store.withheld i t k then none
          else some (store.view i, (store.opening i).lock i t k)
  | .insert t row, store =>
      if store.departing i t row then none
      else if ((store.view i).find? t (S.key t row)).isSome
          || duplicates (store.view i) t row || !S.sound (store.view i) t row then
        some (.error .integrity, store)
      else if !S.fits t row then some (.error .data, store)
      else if store.contested i t row || store.barred i (.put t row) then none
      else some (.ok (), store.stage i (.put t row))
  | .update t k change, store =>
      match ((store.view i).find? t k).bind change with
      | none =>
          some (.ok false, store.record i (fun h => { h with missed := h.missed ++ [(t, k)] }))
      | some row =>
          if store.heldByOther i t k then none
          else if decide (S.key t row ≠ k) || duplicates (store.view i) t row
              || !S.sound (store.view i) t row then
            some (.error .integrity, store)
          else if !S.fits t row then some (.error .data, store)
          else if store.contested i t row || store.barred i (.put t row) then none
          else some (.ok true, store.stage i (.put t row))
  | .delete t chosen, store =>
      let rows := (store.view i t).filter chosen
      if rows.any (fun row => store.withheld i t (S.key t row)) then none
      else
        some (rows.length,
          rows.foldl (fun current row => current.stage i (.remove t (S.key t row)))
            (store.reading i))
  | .commit, store =>
      some ((),
        ({ store with committed := store.view i }.release i).record i
          (fun h => { h with log := h.log ++ [(store.own i, store.view i)] }))
  | .rollback, store => some ((), store.release i)

end Store

end Transactions
