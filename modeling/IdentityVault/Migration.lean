import IdentityVault.Account

/-! # The API-key migration

`AlterAccountTable` adds the `resellerapi` column (its error dropped), then runs
`addAccountAPIKeyField`: add the `api_key` column, list every account, give each account with
an empty key a generated one through `updateAccount` (its error dropped), and make the column
`NOT NULL`.  A run takes a `MigrationEnv`: the fault of each call it makes, where the listing
breaks off, and what the random source hands out.

* An `ADD COLUMN` that fails is taken for "the column exists": the run returns `nil` and leaves
  every key as it was (`alterAccountTable_nil_spec`).  After a run that failed once the column
  was added, a second run therefore returns `nil` with the empty keys still there
  (`migration_rerun_after_failed_generation`).
* Otherwise a `nil` run has given every row a non-empty key, provided the listing delivered
  every row and no `updateAccount` failed: the loop keeps "each row without a key is owed one by
  an account still to come" (`DefaultsOwed`, `defaultAPIKeys_allKeyed`).
-/

namespace IdentityVault

/-- What the environment does during one run of `AlterAccountTable`. -/
structure MigrationEnv where
  /-- The fault of `db.Exec(alterAccountResellerAPI)`. -/
  resellerAPI : Option String
  /-- The fault of `db.Exec(alterAccountAPIKey)`. -/
  apiKey : Option String
  /-- The faults of `db.Query(listAccountsSQL)`. -/
  listing : QueryFaults
  /-- The outcomes of the random source, one per `generateAPIKey` call. -/
  keys : List (Option APIKey)
  /-- The faults of the successive `updateAccount` execs. -/
  updates : List (Option String)
  /-- The fault of `db.Exec(alterAccountAPIKeyNotNullable)`. -/
  notNullable : Option String
deriving DecidableEq

/-- The loop of `addAccountAPIKeyField` over the listed accounts. -/
def defaultAPIKeys (keys : List (Option APIKey)) (updates : List (Option String)) (db : AccountDB) :
    List Account → Option String × AccountDB
  | [] => (none, db)
  | acc :: accounts =>
    if 0 < acc.apiKey.length then defaultAPIKeys keys updates db accounts
    else
      match generateAPIKey keys with
      | (none, _) => (some "Error generating random string for the API key", db)
      | (some apiKey, keys) =>
        let r := updateAccount keys updates.head?.join { acc with apiKey := apiKey } db
        defaultAPIKeys r.2.2 updates.tail r.2.1 accounts

/-- `addAccountAPIKeyField`. -/
def addAccountAPIKeyField (env : MigrationEnv) (db : AccountDB) : Option String × AccountDB :=
  match db.execWith env.apiKey .alterAccountAPIKey with
  | (some _, db) => (none, db)
  | (none, db) =>
    match listAllAccounts db env.listing with
    | .error err => (some err, db)
    | .ok accounts =>
      match defaultAPIKeys env.keys env.updates db accounts with
      | (some err, db) => (some err, db)
      | (none, db) => db.execWith env.notNullable .alterAccountAPIKeyNotNullable

/-- `AlterAccountTable`. -/
def alterAccountTable (env : MigrationEnv) (db : AccountDB) : Option String × AccountDB :=
  addAccountAPIKeyField env (db.execWith env.resellerAPI .alterAccountResellerAPI).2

/-- The row has a non-empty API key. -/
def AccountRow.hasAPIKey (r : AccountRow) : Bool :=
  match r.apiKey with
  | some k => 0 < k.length
  | none => false

/-- Every row of the table has a non-empty API key. -/
def AccountDB.allKeyed (db : AccountDB) : Bool := db.rows.all AccountRow.hasAPIKey

/-! ### Calls the migration makes -/

theorem execWith_alterAccountAPIKey_of_error {db : AccountDB} {fault : Option String}
    (h : (db.execWith fault .alterAccountAPIKey).1.isSome) :
    (db.execWith fault .alterAccountAPIKey).2 = db := by
  rcases fault with _ | err
  · simp only [AccountDB.execWith, AccountDB.exec] at h ⊢
    split_ifs at h ⊢
    · rfl
    · simp at h
  · rfl

@[simp] theorem execWith_notNullable_rows (db : AccountDB) (fault : Option String) :
    (db.execWith fault .alterAccountAPIKeyNotNullable).2.rows = db.rows := by
  rcases fault with _ | err
  · simp only [AccountDB.execWith, AccountDB.exec]
    split_ifs <;> rfl
  · rfl

theorem length_pos_of_validAPIKey {apiKey : String} (h : validAPIKey apiKey = true) :
    0 < apiKey.length := by
  simp only [validAPIKey, decide_eq_true_eq] at h
  omega

theorem updateAccount_of_valid (keys : List (Option APIKey)) (account : Account) (db : AccountDB)
    (hv : validAPIKey account.apiKey = true) (hc : db.missingColumn = none) :
    updateAccount keys none account db =
      (none, { db with rows := db.rows.map fun r => if r.id = account.id then account.toRow else r },
        keys) := by
  simp [updateAccount, execWithValidAPIKey_of_valid _ _ _ _ _ hv, AccountDB.execWith,
    AccountDB.exec, hc]

/-! ### The loop -/

/-- Each row without a key is owed one by an account still to be processed. -/
def DefaultsOwed (db : AccountDB) (accounts : List Account) : Prop :=
  ∀ r ∈ db.rows, r.hasAPIKey = true ∨ ∃ a ∈ accounts, a.id = r.id ∧ a.apiKey.length = 0

theorem DefaultsOwed.skip {db : AccountDB} {acc : Account} {accounts : List Account}
    (h : DefaultsOwed db (acc :: accounts)) (hk : 0 < acc.apiKey.length) :
    DefaultsOwed db accounts := by
  intro r hr
  rcases h r hr with h | ⟨a, ha, hid, hlen⟩
  · exact .inl h
  · rcases List.mem_cons.mp ha with rfl | ha
    · omega
    · exact .inr ⟨a, ha, hid, hlen⟩

theorem DefaultsOwed.update {db : AccountDB} {acc : Account} {accounts : List Account}
    (h : DefaultsOwed db (acc :: accounts)) {row : AccountRow} (hrow : row.hasAPIKey = true) :
    DefaultsOwed { db with rows := db.rows.map fun r => if r.id = acc.id then row else r }
      accounts := by
  intro r' hr'
  obtain ⟨r, hr, rfl⟩ := List.mem_map.mp hr'
  by_cases hid : r.id = acc.id
  · simp only [hid, if_true]
    exact .inl hrow
  · simp only [hid, if_false]
    rcases h r hr with h | ⟨a, ha, hida, hlen⟩
    · exact .inl h
    · rcases List.mem_cons.mp ha with rfl | ha
      · exact absurd hida.symm hid
      · exact .inr ⟨a, ha, hida, hlen⟩

theorem DefaultsOwed.allKeyed {db : AccountDB} (h : DefaultsOwed db []) : db.allKeyed = true := by
  simpa [AccountDB.allKeyed, DefaultsOwed] using h

/-- A loop that ends without error, with no `updateAccount` fault, pays every key it owes. -/
theorem defaultAPIKeys_allKeyed (keys : List (Option APIKey)) (updates : List (Option String))
    (db : AccountDB) (accounts : List Account) (hu : ∀ f ∈ updates, f = none)
    (hc : db.missingColumn = none) (ho : DefaultsOwed db accounts)
    (h : (defaultAPIKeys keys updates db accounts).1 = none) :
    (defaultAPIKeys keys updates db accounts).2.allKeyed = true := by
  induction accounts generalizing keys updates db with
  | nil => exact ho.allKeyed
  | cons acc accounts ih =>
    simp only [defaultAPIKeys] at h ⊢
    split_ifs at h ⊢ with hk
    · exact ih keys updates db hu hc (ho.skip hk) h
    · split at h
      · cases h
      · rename_i apiKey keys' hgen
        have hv := generateAPIKey_valid hgen
        have hnone : updates.head?.join = none := by
          cases updates with
          | nil => rfl
          | cons f _ => exact hu f (List.mem_cons_self _ _)
        simp only [hgen, hnone, updateAccount_of_valid keys' { acc with apiKey := apiKey } db hv hc]
          at h ⊢
        exact ih keys' updates.tail _ (fun f hf => hu f (List.mem_of_mem_tail hf)) hc
          (ho.update (by simpa [Account.toRow, AccountRow.hasAPIKey] using
            length_pos_of_validAPIKey hv)) h

/-! ### The listing -/

theorem listAllAccounts_owes {db : AccountDB} {f : QueryFaults} {accounts : List Account}
    (hl : ∀ rows, db.query f .listAccountsSQL = .ok rows → rows.delivered = rows.result)
    (h : listAllAccounts db f = .ok accounts) :
    db.missingColumn = none ∧ DefaultsOwed db accounts := by
  simp only [listAllAccounts, listAccountsFilteredByUser, anyUserFilter, String.length_empty,
    if_true, queryAccounts] at h
  rcases hq : db.query f .listAccountsSQL with err | rows
  · simp [hq] at h
  simp only [hq, rowsToAccounts, hl rows hq] at h
  obtain ⟨_ | err, broken⟩ := f
  swap
  · simp [AccountDB.query] at hq
  cases hc : db.missingColumn with
  | some column => simp [AccountDB.query, AccountDB.select, hc, Except.map] at hq
  | none =>
    simp only [AccountDB.query, AccountDB.select, hc, Except.map, Except.ok.injEq] at hq
    subst hq
    refine ⟨rfl, fun r hr => ?_⟩
    obtain ⟨scanned, rfl, hall⟩ := (rowsToAccountsLoop_ok_iff [] _ accounts).mp h
    obtain ⟨a, ha, hs⟩ := forall₂_exists_of_mem hall
      ((List.perm_insertionSort _ db.rows).mem_iff.mpr hr)
    obtain rfl := scanAccount_ok hs
    by_cases hlen : a.apiKey.length = 0
    · exact .inr ⟨a, ha, rfl, hlen⟩
    · left; simp [AccountRow.hasAPIKey, Account.toRow]; omega

/-! ### Runs -/

theorem addAccountAPIKeyField_allKeyed (env : MigrationEnv) (db : AccountDB)
    (hadd : (db.execWith env.apiKey .alterAccountAPIKey).1 = none)
    (hl : ∀ rows, (db.execWith env.apiKey .alterAccountAPIKey).2.query env.listing
      .listAccountsSQL = .ok rows → rows.delivered = rows.result)
    (hu : ∀ f ∈ env.updates, f = none) (h : (addAccountAPIKeyField env db).1 = none) :
    (addAccountAPIKeyField env db).2.allKeyed = true := by
  unfold addAccountAPIKeyField at h ⊢
  rcases hx : db.execWith env.apiKey .alterAccountAPIKey with ⟨_ | _, db₂⟩
  · rw [hx] at hl
    simp only [hx] at h ⊢
    rcases hlist : listAllAccounts db₂ env.listing with err | accounts
    · simp [hlist] at h
    · simp only [hlist] at h ⊢
      rcases hd : defaultAPIKeys env.keys env.updates db₂ accounts with ⟨_ | _, db₃⟩
      · obtain ⟨hc, ho⟩ := listAllAccounts_owes hl hlist
        have := defaultAPIKeys_allKeyed env.keys env.updates db₂ accounts hu hc ho (by rw [hd])
        rw [hd] at this
        simpa [AccountDB.allKeyed] using this
      · simp [hd] at h
  · simp [hx] at hadd

theorem addAccountAPIKeyField_of_add_failed (env : MigrationEnv) (db : AccountDB)
    (h : (db.execWith env.apiKey .alterAccountAPIKey).1.isSome) :
    addAccountAPIKeyField env db = (none, db) := by
  have hdb := execWith_alterAccountAPIKey_of_error h
  unfold addAccountAPIKeyField
  rcases hx : db.execWith env.apiKey .alterAccountAPIKey with ⟨_ | _, db₂⟩
  · simp [hx] at h
  · rw [hx] at hdb
    simpa using hdb

/-- What a `nil` run of `AlterAccountTable` guarantees: when its `ADD COLUMN` fails, nothing but
the reseller column has changed; when it succeeds, the listing delivers every row it selects and
no `updateAccount` fails, every row has a non-empty key. -/
theorem alterAccountTable_nil_spec (env : MigrationEnv) (db : AccountDB) :
    let db₁ := (db.execWith env.resellerAPI .alterAccountResellerAPI).2
    let db₂ := (db₁.execWith env.apiKey .alterAccountAPIKey).2
    ((db₁.execWith env.apiKey .alterAccountAPIKey).1.isSome →
        alterAccountTable env db = (none, db₁)) ∧
      ((db₁.execWith env.apiKey .alterAccountAPIKey).1 = none →
        (∀ rows, db₂.query env.listing .listAccountsSQL = .ok rows → rows.delivered = rows.result) →
        (∀ f ∈ env.updates, f = none) → (alterAccountTable env db).1 = none →
        (alterAccountTable env db).2.allKeyed = true) :=
  ⟨addAccountAPIKeyField_of_add_failed env _, addAccountAPIKeyField_allKeyed env _⟩

theorem alterAccountTable_nil_spec_two_tables :
    let env : MigrationEnv := ⟨none, none, ⟨none, some (1, "driver: bad connection")⟩,
      [some ⟨"0123456789", by decide⟩], [], none⟩
    let fresh : AccountDB := ⟨false, none, [⟨1, "acme", some "", none, none⟩], [], 2⟩
    let migrated : AccountDB := ⟨true, some true, [⟨1, "acme", some "", some false, some ""⟩], [], 2⟩
    let added := (fresh.execWith env.resellerAPI .alterAccountResellerAPI).2.execWith env.apiKey
      .alterAccountAPIKey
    ((((migrated.execWith env.resellerAPI .alterAccountResellerAPI).2.execWith env.apiKey
        .alterAccountAPIKey).1.isSome ∧
      alterAccountTable env migrated = (none, migrated)) ∧
    ((added.1 = none ∧
      (∀ rows, added.2.query env.listing .listAccountsSQL = .ok rows →
        rows.delivered = rows.result) ∧
      (∀ f ∈ env.updates, f = none) ∧ (alterAccountTable env fresh).1 = none) ∧
      (alterAccountTable env fresh).2.allKeyed = true)) := by
  intro env fresh migrated added
  have hl : ∀ rows, added.2.query env.listing .listAccountsSQL = .ok rows →
      rows.delivered = rows.result := fun rows h => by
    cases h.symm.trans (rfl : _ = Except.ok (⟨[⟨1, "acme", some "", some false, some ""⟩],
      some (1, "driver: bad connection")⟩ : Rows AccountRow))
    rfl
  exact ⟨⟨by decide, (alterAccountTable_nil_spec env migrated).1 (by decide)⟩,
    ⟨by decide, hl, by simp, by decide⟩,
    (alterAccountTable_nil_spec env fresh).2 (by decide) hl (by simp) (by decide)⟩

/-- A table with an `api_key` column holding an empty key in a row that the random source
cannot serve: the first run fails once the column is added, the second skips the field. -/
theorem migration_rerun_after_failed_generation :
    let db : AccountDB := ⟨true, none, [⟨1, "acme", some "", some false, none⟩], [], 2⟩
    let first := alterAccountTable ⟨none, none, ⟨none, none⟩, [none], [], none⟩ db
    let second := alterAccountTable ⟨none, none, ⟨none, none⟩, [], [], none⟩ first.2
    first.1 = some "Error generating random string for the API key" ∧
      second.1 = none ∧ second.2.allKeyed = false := by
  decide

end IdentityVault
