import Mathlib.Data.List.Basic

/-! # Transactions

`DB.transaction(txFunc)` of the datastore, with the Go rules its body depends on.

* `tx, err := db.Begin()`; a failed `Begin` returns its error and runs nothing.
* `txFunc(tx)` runs the body's statements on `tx` and either returns an `error` or panics; a
  body is its writes on `tx` and how it ends, so one that commits or rolls back `tx` itself is
  outside the model.
* The deferred closure runs after the body in both cases.  It calls `recover()`, which under
  this module's Go 1.13 semantics reports the panic's value and stops the panic; for
  `panic(nil)` the value is `nil`, so the closure cannot tell that panic from a normal return.
* `return err` copies `err` into the unnamed result before the deferred closure runs, so the
  closure's `err = tx.Commit()` assigns the local variable only; a panic leaves the result at
  its zero value, `nil`.

The writes of the body are persisted exactly when `Begin` and `Commit` succeed and the body did
not return an error nor panic with a non-nil value (`transaction_eq`).  Two cases diverge from
"nil means committed, anything else means nothing persisted": a failing `Commit` is returned as
`nil`, and `panic(nil)` is swallowed and committed (`transaction_nil_on_failed_commit_or_nil_panic`).
-/

namespace IdentityVault

variable {W V : Type}

/-- How a transaction body ends: it returns an `error` (`none` for nil), or panics with a value
(`none` for `panic(nil)`). -/
inductive Ending (V : Type) where
  | returned (err : Option String)
  | panicked (p : Option V)
deriving DecidableEq, Repr

/-- `recover()` in a deferred call: the value of the panic in flight, nil when there is none. -/
def Ending.recover : Ending V → Option V
  | .returned _ => none
  | .panicked p => p

/-- How a call of `transaction` ends: it returns an `error`, or it panics with a value. -/
inductive Outcome (V : Type) where
  | returned (err : Option String)
  | panicked (p : V)
deriving DecidableEq, Repr

/-- An open transaction: the writes its statements have made. -/
structure Tx (W : Type) where
  writes : List W
deriving DecidableEq, Repr

/-- The database: the writes committed so far. -/
structure DB (W : Type) where
  committed : List W
deriving DecidableEq, Repr

/-- What the driver answers to `Begin` and `Commit` (`none` for success).  `Rollback`'s answer
is ignored by the code, and a transaction that is not committed persists nothing. -/
structure Driver where
  begin : Option String
  commit : Option String
deriving DecidableEq, Repr

/-- `DB.transaction(txFunc)`: how the call ends, and the database after it. -/
def transaction (d : Driver) (txFunc : Tx W → Tx W × Ending V) (db : DB W) : Outcome V × DB W :=
  match d.begin with
  | some err => (.returned (some err), db)
  | none =>
    let (tx, ending) := txFunc ⟨[]⟩
    -- the unnamed result, fixed by `return err`; a panic leaves it nil
    let result : Option String := match ending with
      | .returned err => err
      | .panicked _ => none
    match ending.recover with
    | some p => (.panicked p, db)
    | none =>
      if result.isSome then (.returned result, db)
      else match d.commit with
        | some _ => (.returned result, db)
        | none => (.returned result, ⟨db.committed ++ tx.writes⟩)

/-! ### What a call does -/

/-- `transaction` by cases on `Begin`, on how the body ends and on `Commit`. -/
theorem transaction_eq (d : Driver) (txFunc : Tx W → Tx W × Ending V) (db : DB W) :
    transaction d txFunc db =
      match d.begin, (txFunc ⟨[]⟩).2 with
      | some err, _ => (.returned (some err), db)
      | none, .returned (some err) => (.returned (some err), db)
      | none, .panicked (some p) => (.panicked p, db)
      | none, _ =>
        (.returned none, if d.commit.isNone then ⟨db.committed ++ (txFunc ⟨[]⟩).1.writes⟩ else db) := by
  rcases h : txFunc ⟨[]⟩ with ⟨tx, (_ | err) | (_ | p)⟩ <;>
    obtain ⟨_ | _, _ | _⟩ := d <;> simp [transaction, h, Ending.recover]

/-- The two calls that end in `nil` without the body's writes being committed as one: a body
that returns nil followed by a failing `Commit` (nil returned, nothing persisted), and a body
that calls `panic(nil)` (nil returned, the writes committed). -/
theorem transaction_nil_on_failed_commit_or_nil_panic :
    transaction ⟨none, some "pq: could not serialize access due to concurrent update"⟩
        (fun tx : Tx ℕ => (⟨tx.writes ++ [1]⟩, (.returned none : Ending String))) ⟨[]⟩ =
      (.returned none, ⟨[]⟩) ∧
    transaction ⟨none, none⟩
        (fun tx : Tx ℕ => (⟨tx.writes ++ [1]⟩, (.panicked none : Ending String))) ⟨[]⟩ =
      (.returned none, ⟨[1]⟩) :=
  ⟨rfl, rfl⟩

end IdentityVault
