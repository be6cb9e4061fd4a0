import IdentityVault.Migration

/-! # The account table over the service's life

`CreateAccountTable`, then any sequence of the account manager's calls that can change the
table: `AlterAccountTable`, which runs at every start of the service, and the writes
`CreateAccount`, `updateAccount`, `updateUserAccount` and `putAccount`, each call with its own
faults, the writes sharing one random source.  Reads change nothing and are left out of a run.

* **Invariant.** `AccountDB.RowsSatisfy q db`: the `api_key` column is `NOT NULL` and every row
  satisfies `q`, for any row property `q` that every row the manager writes has and that a new
  assertion or the `resellerapi` default keeps (`WriteClosed`).  Every call keeps it
  (`AccountCall.apply_rowsSatisfy`): the three writes of the `execWithValidAPIKey` family write
  a valid key or nothing, `putAccount` only edits the assertion of a row that exists, its insert
  being refused by `NOT NULL`, and `AlterAccountTable` stops at its `ADD COLUMN api_key`
  (`alterAccountTable_of_column`).
* **Rows.** Two such properties: the key is present and satisfies `p` (`AccountRow.KeyBy`), and
  the row scans into an account with a valid key (`AccountRow.Listable`).

Writes are isolated: on a table whose columns are in place, a row stays as it is through any
starts and writes for accounts of other ids and authority-ids (`runCalls_keeps_row`).  A write
is read back: after a `nil` `CreateAccount`, `GetAccount` returns the account as written
(`createAccount_getAccount`).  A property of the table that every statement keeps, failed ones
included, is kept by every call (`AccountCall.apply_of_stmtClosed`); so the `id` sequence keeps
its promise: ids stay distinct and below it, refused inserts leaving gaps, and `getAccountByID`
finds every row by its id (`startup_calls_getAccountByID`).

In particular: on a database without the table, after `CreateAccountTable` and any calls, a
complete listing returns every row, each account with a valid key
(`startup_calls_listAllAccounts`); and after a migration that added the column and returned
`nil`, with the listing complete and no `updateAccount` fault, every row keeps a non-empty key
whatever calls follow (`alterAccountTable_calls_keyed`).  A run that added the column and then
failed is never repaired: every later start returns `nil` at its failing `ADD COLUMN`, the column
stays nullable and every key stays as that run left it (`alterAccountTable_failed_never_repaired`).
-/

namespace IdentityVault

/-! ### Calls that change the table -/

/-- `CreateAccountTable`: `CREATE TABLE IF NOT EXISTS account` on a database that has the table
(`some db`) or not (`none`); `userAccounts` are the user links of the other tables. -/
def createAccountTable (userAccounts : List (String × ℤ)) (fault : Option String)
    (db : Option AccountDB) : Option String × Option AccountDB :=
  match fault with
  | some err => (some err, db)
  | none => (none, some (db.getD (AccountDB.created userAccounts)))

/-- A call of the account manager that can change the account table, with the faults of the
calls it makes. -/
inductive AccountCall where
  /-- `AlterAccountTable`, run at each start of the service. -/
  | alter (env : MigrationEnv)
  /-- `CreateAccount`. -/
  | create (fault : Option String) (account : Account)
  /-- `updateAccount`. -/
  | update (fault : Option String) (account : Account)
  /-- `updateUserAccount`. -/
  | updateUser (fault : Option String) (account : Account) (username : String)
  /-- `putAccount`. -/
  | put (fault : Option String) (account : Account)
deriving DecidableEq

/-- What one call does to the table and to the random source of the writes. -/
def AccountCall.apply :
    AccountCall → AccountDB × List (Option APIKey) → AccountDB × List (Option APIKey)
  | .alter env, (db, keys) => ((alterAccountTable env db).2, keys)
  | .create fault account, (db, keys) => (createAccount keys fault account db).2
  | .update fault account, (db, keys) => (updateAccount keys fault account db).2
  | .updateUser fault account username, (db, keys) =>
    (updateUserAccount keys fault account username db).2
  | .put fault account, (db, keys) => ((putAccount fault account db).2, keys)

/-- A run of calls, one after another. -/
def runCalls (st : AccountDB × List (Option APIKey)) (cs : List AccountCall) :
    AccountDB × List (Option APIKey) :=
  cs.foldl (fun st c => c.apply st) st

/-! ### The invariant -/

/-- A row property that every row the account manager writes has (any id, a valid key), and that
a new assertion and the `resellerapi` default keep. -/
structure WriteClosed (q : AccountRow → Prop) : Prop where
  written : ∀ (account : Account) (id : ℤ), validAPIKey account.apiKey = true →
    q { account.toRow with id := id }
  asserted : ∀ (r : AccountRow) (assertion : String), q r → q { r with assertion := some assertion }
  resellerDefault : ∀ r : AccountRow, q r → q { r with resellerAPI := some false }

/-- The `api_key` column is `NOT NULL` and every row satisfies `q`. -/
def AccountDB.RowsSatisfy (q : AccountRow → Prop) (db : AccountDB) : Prop :=
  db.apiKeyColumn = some true ∧ ∀ r ∈ db.rows, q r

/-- The row's key is present and satisfies `p`. -/
def AccountRow.KeyBy (p : String → Prop) (r : AccountRow) : Prop :=
  ∃ k, r.apiKey = some k ∧ p k

/-- The row scans, into an account with a valid key. -/
def AccountRow.Listable (r : AccountRow) : Prop :=
  ∃ account, scanAccount r = .ok account ∧ validAPIKey account.apiKey = true

theorem writeClosed_keyBy {p : String → Prop} (hp : ∀ k, validAPIKey k = true → p k) :
    WriteClosed (AccountRow.KeyBy p) :=
  ⟨fun account _ hv => ⟨account.apiKey, rfl, hp _ hv⟩, fun _ _ h => h, fun _ h => h⟩

theorem AccountRow.listable_iff (r : AccountRow) :
    r.Listable ↔ r.assertion.isSome ∧ r.resellerAPI.isSome ∧ r.KeyBy (validAPIKey · = true) := by
  obtain ⟨id, authorityID, _ | assertion, _ | resellerAPI, _ | apiKey⟩ := r <;>
    simp [AccountRow.Listable, AccountRow.KeyBy, scanAccount]

theorem writeClosed_listable : WriteClosed AccountRow.Listable where
  written account _ hv := (AccountRow.listable_iff _).mpr ⟨rfl, rfl, account.apiKey, rfl, hv⟩
  asserted r _ h := by
    obtain ⟨-, hr, hk⟩ := (AccountRow.listable_iff r).mp h
    exact (AccountRow.listable_iff _).mpr ⟨rfl, hr, hk⟩
  resellerDefault r h := by
    obtain ⟨ha, -, hk⟩ := (AccountRow.listable_iff r).mp h
    exact (AccountRow.listable_iff _).mpr ⟨ha, rfl, hk⟩

theorem AccountDB.rowsSatisfy_nonempty_iff (db : AccountDB) :
    db.RowsSatisfy (AccountRow.KeyBy fun k => 0 < k.length) ↔
      db.apiKeyColumn = some true ∧ db.allKeyed = true := by
  refine and_congr_right fun _ => ?_
  simp only [AccountDB.allKeyed, List.all_eq_true]
  refine forall₂_congr fun r _ => ?_
  rcases hk : r.apiKey with _ | k <;> simp [AccountRow.KeyBy, AccountRow.hasAPIKey, hk]

/-! ### One call -/

theorem execWith_of_exec (P : AccountDB → Prop) {db : AccountDB} (fault : Option String)
    (s : AccountStmt) (h : ∀ n, P { db with serial := n })
    (hs : ∀ db', db.exec s = (none, db') → P db') : P (db.execWith fault s).2 := by
  rcases he : db.execWith fault s with ⟨_ | err, db'⟩
  · rcases fault with _ | err
    · exact hs db' he
    · cases he
  · have hdb := AccountDB.execWith_of_error (show (db.execWith fault s).1.isSome by simp [he])
    rw [he] at hdb
    rw [hdb]
    exact h _

theorem execWithValidAPIKey_of_exec (P : AccountDB → Prop) (stmt : Account → AccountStmt)
    (keys : List (Option APIKey)) (fault : Option String) (account : Account) {db : AccountDB}
    (h : ∀ n, P { db with serial := n }) (hs : ∀ (apiKey : String) (db' : AccountDB),
      validAPIKey apiKey = true → db.exec (stmt { account with apiKey := apiKey }) = (none, db') →
        P db') :
    P (execWithValidAPIKey stmt keys fault account db).2.1 := by
  rcases execWithValidAPIKey_spec stmt keys fault account db with
    ⟨-, hdb⟩ | ⟨-, -, apiKey, hv, -, he⟩
  · rw [hdb]
    exact h _
  · exact hs _ _ hv he

theorem AccountCall.write_of_exec (P : AccountDB → Prop) {db : AccountDB}
    (h : ∀ n, P { db with serial := n })
    (hcreate : ∀ (account : Account) (db' : AccountDB), validAPIKey account.apiKey = true →
      db.exec (.createAccountSQL account) = (none, db') → P db')
    (hupdate : ∀ (account : Account) (db' : AccountDB), validAPIKey account.apiKey = true →
      db.exec (.updateAccountSQL account) = (none, db') → P db')
    (hput : ∀ (authorityID assertion : String) (db' : AccountDB),
      db.exec (.upsertAccountSQL authorityID assertion) = (none, db') → P db')
    (c : AccountCall) (hc : ∀ env, c ≠ .alter env) (keys : List (Option APIKey)) :
    P (c.apply (db, keys)).1 := by
  cases c with
  | alter env => exact absurd rfl (hc env)
  | create fault account =>
    exact execWithValidAPIKey_of_exec P _ keys fault account h fun _ _ hv => hcreate _ _ hv
  | update fault account =>
    exact execWithValidAPIKey_of_exec P _ keys fault account h fun _ _ hv => hupdate _ _ hv
  | updateUser fault account username =>
    exact execWithValidAPIKey_of_exec P _ keys fault account h fun _ _ _ he => by
      simp [AccountDB.exec] at he
  | put fault account => exact execWith_of_exec P fault _ h (hput _ _)

theorem execWith_alterAccountAPIKey_of_column (db : AccountDB) (fault : Option String)
    (h : db.apiKeyColumn.isSome) : (db.execWith fault .alterAccountAPIKey).1.isSome := by
  rcases fault with _ | err
  · simp [AccountDB.execWith, AccountDB.exec, h]
  · rfl

theorem execWith_resellerAPI_apiKeyColumn (db : AccountDB) (fault : Option String) :
    (db.execWith fault .alterAccountResellerAPI).2.apiKeyColumn = db.apiKeyColumn := by
  rcases fault with _ | err
  · simp only [AccountDB.execWith, AccountDB.exec]
    split_ifs <;> rfl
  · rfl

/-- On a table that has the `api_key` column, `AlterAccountTable` returns `nil` after its
`ADD COLUMN api_key` fails, having at most added `resellerapi`. -/
theorem alterAccountTable_of_column (env : MigrationEnv) {db : AccountDB}
    (h : db.apiKeyColumn.isSome) :
    alterAccountTable env db = (none, (db.execWith env.resellerAPI .alterAccountResellerAPI).2) :=
  addAccountAPIKeyField_of_add_failed env _ (execWith_alterAccountAPIKey_of_column _ env.apiKey
    (by rw [execWith_resellerAPI_apiKeyColumn]; exact h))

theorem execWith_resellerAPI_of_column {db : AccountDB} (fault : Option String)
    (h : db.resellerAPIColumn = true) : (db.execWith fault .alterAccountResellerAPI).2 = db := by
  rcases fault with _ | err
  · simp [AccountDB.execWith, AccountDB.exec, h]
  · rfl

section closed

variable {q : AccountRow → Prop} (hq : WriteClosed q)
include hq

theorem exec_createAccountSQL_rowsSatisfy {db db' : AccountDB} {account : Account}
    (hv : validAPIKey account.apiKey = true) (h : db.RowsSatisfy q)
    (he : db.exec (.createAccountSQL account) = (none, db')) : db'.RowsSatisfy q := by
  obtain ⟨-, -, rfl⟩ := exec_createAccountSQL_ok he
  refine ⟨h.1, fun r hr => ?_⟩
  rcases List.mem_append.mp hr with hr | hr
  · exact h.2 r hr
  · exact List.mem_singleton.mp hr ▸ hq.written account _ hv

theorem exec_updateAccountSQL_rowsSatisfy {db db' : AccountDB} {account : Account}
    (hv : validAPIKey account.apiKey = true) (h : db.RowsSatisfy q)
    (he : db.exec (.updateAccountSQL account) = (none, db')) : db'.RowsSatisfy q := by
  simp only [AccountDB.exec] at he
  split at he
  · cases he
  · cases he
    refine ⟨h.1, fun r' hr' => ?_⟩
    obtain ⟨r, hr, rfl⟩ := List.mem_map.mp hr'
    split_ifs
    · exact hq.written account account.id hv
    · exact h.2 r hr

theorem exec_upsertAccountSQL_rowsSatisfy {db db' : AccountDB} {authorityID assertion : String}
    (h : db.RowsSatisfy q)
    (he : db.exec (.upsertAccountSQL authorityID assertion) = (none, db')) :
    db'.RowsSatisfy q := by
  by_cases hany : db.rows.any (·.authorityID == authorityID)
  · simp only [AccountDB.exec, hany, if_true, Prod.mk.injEq, true_and] at he
    subst he
    refine ⟨h.1, fun r' hr' => ?_⟩
    obtain ⟨r, hr, rfl⟩ := List.mem_map.mp hr'
    split_ifs
    · exact hq.asserted r assertion (h.2 r hr)
    · exact h.2 r hr
  · simp [AccountDB.exec, hany, h.1] at he

theorem alterAccountTable_rowsSatisfy (env : MigrationEnv) {db : AccountDB}
    (h : db.RowsSatisfy q) : (alterAccountTable env db).2.RowsSatisfy q := by
  rw [alterAccountTable_of_column env (by simp [h.1])]
  refine execWith_of_exec _ _ _ (fun _ => h) fun db' he => ?_
  simp only [AccountDB.exec] at he
  split_ifs at he <;> cases he
  refine ⟨h.1, fun r' hr' => ?_⟩
  obtain ⟨r, hr, rfl⟩ := List.mem_map.mp hr'
  exact hq.resellerDefault r (h.2 r hr)

theorem AccountCall.apply_rowsSatisfy (c : AccountCall) (st : AccountDB × List (Option APIKey))
    (h : st.1.RowsSatisfy q) : (c.apply st).1.RowsSatisfy q := by
  obtain ⟨db, keys⟩ := st
  by_cases hc : ∃ env, c = .alter env
  · obtain ⟨env, rfl⟩ := hc
    exact alterAccountTable_rowsSatisfy hq env h
  · exact AccountCall.write_of_exec _ (fun _ => h)
      (fun _ _ hv he => exec_createAccountSQL_rowsSatisfy hq hv h he)
      (fun _ _ hv he => exec_updateAccountSQL_rowsSatisfy hq hv h he)
      (fun _ _ _ he => exec_upsertAccountSQL_rowsSatisfy hq h he)
      c (fun env he => hc ⟨env, he⟩) keys

theorem runCalls_rowsSatisfy (cs : List AccountCall) {st : AccountDB × List (Option APIKey)}
    (h : st.1.RowsSatisfy q) : (runCalls st cs).1.RowsSatisfy q := by
  induction cs generalizing st with
  | nil => exact h
  | cons c cs ih => exact ih (c.apply_rowsSatisfy hq st h)

end closed

theorem AccountCall.apply_notNull (c : AccountCall) (st : AccountDB × List (Option APIKey))
    (h : st.1.apiKeyColumn = some true) : (c.apply st).1.apiKeyColumn = some true :=
  (c.apply_rowsSatisfy (q := fun _ => True) ⟨fun _ _ _ => trivial, fun _ _ _ => trivial,
    fun _ _ => trivial⟩ st ⟨h, fun _ _ => trivial⟩).1

theorem AccountCall.apply_resellerAPIColumn (c : AccountCall) (st : AccountDB × List (Option APIKey))
    (h : st.1.apiKeyColumn = some true) (hr : st.1.resellerAPIColumn = true) :
    (c.apply st).1.resellerAPIColumn = true := by
  obtain ⟨db, keys⟩ := st
  by_cases hc : ∃ env, c = .alter env
  · obtain ⟨env, rfl⟩ := hc
    simp only [AccountCall.apply,
      alterAccountTable_of_column env (by rw [show db.apiKeyColumn = some true from h]; rfl),
      execWith_resellerAPI_of_column _ hr]
    exact hr
  · refine AccountCall.write_of_exec (fun db' => db'.resellerAPIColumn = true) (fun _ => hr)
      (fun _ _ _ he => ?_) (fun _ _ _ he => ?_) (fun _ _ _ he => ?_) c (fun env he => hc ⟨env, he⟩)
      keys
    · obtain ⟨-, -, rfl⟩ := exec_createAccountSQL_ok he
      exact hr
    · simp only [AccountDB.exec] at he
      split at he <;> cases he
      exact hr
    · simp only [AccountDB.exec] at he
      split_ifs at he <;> cases he
      exact hr

theorem runCalls_resellerAPIColumn (cs : List AccountCall) {st : AccountDB × List (Option APIKey)}
    (h : st.1.apiKeyColumn = some true) (hr : st.1.resellerAPIColumn = true) :
    (runCalls st cs).1.resellerAPIColumn = true := by
  induction cs generalizing st with
  | nil => exact hr
  | cons c cs ih => exact ih (c.apply_notNull st h) (c.apply_resellerAPIColumn st h hr)

/-! ### Other accounts' rows -/

/-- The account a write is for; `AlterAccountTable` is for none. -/
def AccountCall.account? : AccountCall → Option Account
  | .alter _ => none
  | .create _ account | .update _ account | .updateUser _ account _ | .put _ account => some account

theorem AccountCall.apply_keeps_row (c : AccountCall) (st : AccountDB × List (Option APIKey))
    (h : st.1.apiKeyColumn = some true) (hr : st.1.resellerAPIColumn = true) {row : AccountRow}
    (hmem : row ∈ st.1.rows)
    (hother : ∀ a, c.account? = some a → a.id ≠ row.id ∧ a.authorityID ≠ row.authorityID) :
    row ∈ (c.apply st).1.rows := by
  obtain ⟨db, keys⟩ := st
  cases c with
  | alter env =>
    simp only [AccountCall.apply,
      alterAccountTable_of_column env (by rw [show db.apiKeyColumn = some true from h]; rfl),
      execWith_resellerAPI_of_column _ hr]
    exact hmem
  | create fault account =>
    refine execWithValidAPIKey_of_exec (fun db' => row ∈ db'.rows) _ keys fault account
      (fun _ => hmem) fun _ _ _ he => ?_
    obtain ⟨-, -, rfl⟩ := exec_createAccountSQL_ok he
    exact List.mem_append_left _ hmem
  | update fault account =>
    refine execWithValidAPIKey_of_exec (fun db' => row ∈ db'.rows) _ keys fault account
      (fun _ => hmem) fun _ _ _ he => ?_
    have hid : row.id ≠ account.id := (hother account rfl).1.symm
    simp only [AccountDB.exec] at he
    split at he
    · cases he
    · cases he
      exact List.mem_map.mpr ⟨row, hmem, by simp [hid]⟩
  | updateUser fault account username =>
    exact execWithValidAPIKey_of_exec (fun db' => row ∈ db'.rows) _ keys fault account
      (fun _ => hmem) fun _ _ _ he => by simp [AccountDB.exec] at he
  | put fault account =>
    refine execWith_of_exec (fun db' => row ∈ db'.rows) fault _ (fun _ => hmem) fun db' he => ?_
    have hauth : row.authorityID ≠ account.authorityID := (hother account rfl).2.symm
    simp only [AccountDB.exec] at he
    split_ifs at he
    · cases he
      exact List.mem_map.mpr ⟨row, hmem, by simp [hauth]⟩
    · cases he

/-- On a table whose columns are in place, a row stays exactly as it is through any sequence of
starts and writes for accounts of other ids and other authority-ids. -/
theorem runCalls_keeps_row (cs : List AccountCall) {st : AccountDB × List (Option APIKey)}
    (h : st.1.apiKeyColumn = some true) (hr : st.1.resellerAPIColumn = true) {row : AccountRow}
    (hmem : row ∈ st.1.rows)
    (hother : ∀ c ∈ cs, ∀ a, c.account? = some a → a.id ≠ row.id ∧ a.authorityID ≠ row.authorityID) :
    row ∈ (runCalls st cs).1.rows := by
  induction cs generalizing st with
  | nil => exact hmem
  | cons c cs ih =>
    exact ih (c.apply_notNull st h) (c.apply_resellerAPIColumn st h hr)
      (c.apply_keeps_row st h hr hmem (hother c (List.mem_cons_self _ _)))
      fun c' hc' => hother c' (List.mem_cons_of_mem _ hc')

theorem runCalls_keeps_row_acme :
    let st : AccountDB × List (Option APIKey) := (⟨true, some true,
      [⟨1, "acme", some "", some false, some "0123456789"⟩,
       ⟨2, "bolt", some "", some false, some "9876543210"⟩], [], 3⟩, [some ⟨"0123456789", by decide⟩])
    let row : AccountRow := ⟨1, "acme", some "", some false, some "0123456789"⟩
    let cs : List AccountCall :=
      [.update none ⟨2, "bolt", "assertion", true, "abcdefghij"⟩, .put none ⟨0, "bolt", "new", false, ""⟩,
        .alter ⟨none, none, ⟨none, none⟩, [], [], none⟩, .create none ⟨0, "cobalt", "", false, ""⟩]
    (st.1.apiKeyColumn = some true ∧ st.1.resellerAPIColumn = true ∧ row ∈ st.1.rows ∧
      ∀ c ∈ cs, ∀ a, c.account? = some a → a.id ≠ row.id ∧ a.authorityID ≠ row.authorityID) ∧
    row ∈ (runCalls st cs).1.rows := by
  intro st row cs
  have hother : ∀ c ∈ cs, ∀ a, c.account? = some a →
      a.id ≠ row.id ∧ a.authorityID ≠ row.authorityID := by
    intro c hc a ha
    simp only [cs, List.mem_cons, List.mem_singleton, List.not_mem_nil, or_false] at hc
    rcases hc with rfl | rfl | rfl | rfl <;> simp [AccountCall.account?] at ha <;> subst ha <;> decide
  exact ⟨⟨rfl, rfl, by decide, hother⟩, runCalls_keeps_row cs rfl rfl (by decide) hother⟩

/-! ### Listing -/

theorem rowsToAccountsLoop_of_listable (accounts : List Account) (rows : List AccountRow)
    (h : ∀ r ∈ rows, r.Listable) :
    ∃ scanned, rowsToAccountsLoop accounts rows = .ok (accounts ++ scanned) ∧
      scanned.length = rows.length ∧ ∀ a ∈ scanned, validAPIKey a.apiKey = true := by
  induction rows generalizing accounts with
  | nil => exact ⟨[], by simp [rowsToAccountsLoop]⟩
  | cons row rows ih =>
    obtain ⟨account, hs, hv⟩ := h row (List.mem_cons_self _ _)
    obtain ⟨scanned, hloop, hlen, hall⟩ :=
      ih (accounts ++ [account]) fun r hr => h r (List.mem_cons_of_mem _ hr)
    refine ⟨account :: scanned, by simp [rowsToAccountsLoop, hs, hloop], by simp [hlen], ?_⟩
    intro a ha
    rcases List.mem_cons.mp ha with rfl | ha
    · exact hv
    · exact hall a ha

theorem listAllAccounts_of_listable {db : AccountDB} (hr : db.resellerAPIColumn = true)
    (h : db.RowsSatisfy AccountRow.Listable) :
    ∃ accounts, listAllAccounts db ⟨none, none⟩ = .ok accounts ∧
      accounts.length = db.rows.length ∧ ∀ a ∈ accounts, validAPIKey a.apiKey = true := by
  have hc : db.missingColumn = none := by simp [AccountDB.missingColumn, hr, h.1]
  have hperm := List.perm_insertionSort (fun a b : AccountRow => a.authorityLE b = true) db.rows
  obtain ⟨scanned, hloop, hlen, hall⟩ := rowsToAccountsLoop_of_listable []
    (db.rows.insertionSort fun a b => a.authorityLE b = true) fun r hr => h.2 r (hperm.mem_iff.mp hr)
  refine ⟨scanned, ?_, by rw [hlen, hperm.length_eq], hall⟩
  simpa [listAllAccounts, listAccountsFilteredByUser, anyUserFilter, queryAccounts,
    AccountDB.query, AccountDB.select, hc, Except.map, rowsToAccounts] using hloop

/-! ### Reading back -/

/-- On a database without the account table, after a `nil` `CreateAccountTable` and any sequence
of starts and writes, with any faults and random outcomes, a complete listing with no fault
returns every row of the table, each account with a valid key. -/
theorem startup_calls_listAllAccounts (userAccounts : List (String × ℤ)) (fault : Option String)
    (keys : List (Option APIKey)) (cs : List AccountCall) {db₀ : AccountDB}
    (h : createAccountTable userAccounts fault none = (none, some db₀)) :
    ∃ accounts, listAllAccounts (runCalls (db₀, keys) cs).1 ⟨none, none⟩ = .ok accounts ∧
      accounts.length = (runCalls (db₀, keys) cs).1.rows.length ∧
      ∀ a ∈ accounts, validAPIKey a.apiKey = true := by
  have hdb₀ : db₀ = AccountDB.created userAccounts := by
    rcases fault with _ | err <;> simp [createAccountTable] at h
    exact h.symm
  subst hdb₀
  exact listAllAccounts_of_listable (runCalls_resellerAPIColumn cs rfl rfl)
    (runCalls_rowsSatisfy writeClosed_listable cs ⟨rfl, fun r hr => by simp [AccountDB.created] at hr⟩)

theorem startup_calls_listAllAccounts_acme :
    createAccountTable [] none none = (none, some (AccountDB.created [])) ∧
    ∃ accounts, listAllAccounts (runCalls (AccountDB.created [], [some ⟨"0123456789", by decide⟩])
        [.alter ⟨none, none, ⟨none, none⟩, [], [], none⟩,
          .put none (buildAccountFromAuthorityID "acme"),
          .create none (buildAccountFromAuthorityID "acme"),
          .put none ⟨1, "acme", "assertion", false, ""⟩]).1 ⟨none, none⟩ = .ok accounts ∧
      accounts.length = (runCalls (AccountDB.created [], [some ⟨"0123456789", by decide⟩])
        [.alter ⟨none, none, ⟨none, none⟩, [], [], none⟩,
          .put none (buildAccountFromAuthorityID "acme"),
          .create none (buildAccountFromAuthorityID "acme"),
          .put none ⟨1, "acme", "assertion", false, ""⟩]).1.rows.length ∧
      ∀ a ∈ accounts, validAPIKey a.apiKey = true :=
  ⟨rfl, startup_calls_listAllAccounts [] none _ _ rfl⟩

/-! ### What a migration run does -/

theorem exec_updateAccountSQL_apiKeyColumn {db db' : AccountDB} {account : Account}
    (he : db.exec (.updateAccountSQL account) = (none, db')) :
    db'.apiKeyColumn = db.apiKeyColumn := by
  simp only [AccountDB.exec] at he
  split at he
  · cases he
  · cases he
    rfl

theorem defaultAPIKeys_apiKeyColumn (keys : List (Option APIKey)) (updates : List (Option String))
    (db : AccountDB) (accounts : List Account) :
    (defaultAPIKeys keys updates db accounts).2.apiKeyColumn = db.apiKeyColumn := by
  induction accounts generalizing keys updates db with
  | nil => rfl
  | cons acc accounts ih =>
    simp only [defaultAPIKeys]
    split_ifs
    · exact ih keys updates db
    · split
      · rfl
      · rw [ih]
        exact execWithValidAPIKey_of_exec (fun db' => db'.apiKeyColumn = db.apiKeyColumn) _ _ _ _
          (fun _ => rfl) fun _ _ _ he => exec_updateAccountSQL_apiKeyColumn he

theorem execWith_alterAccountAPIKey_column {db db₂ : AccountDB} {fault : Option String}
    (h : db.execWith fault .alterAccountAPIKey = (none, db₂)) : db₂.apiKeyColumn = some false := by
  rcases fault with _ | err
  · simp only [AccountDB.execWith, AccountDB.exec] at h
    split_ifs at h
    · simp at h
    · simp only [Prod.mk.injEq] at h
      obtain ⟨-, rfl⟩ := h
      rfl
  · cases h

/-- What a run of `addAccountAPIKeyField` does: it returns `nil` after a failing `ADD COLUMN`,
returns the error of a failing listing or key loop, or ends with `SET NOT NULL`. -/
theorem addAccountAPIKeyField_cases (env : MigrationEnv) (db : AccountDB) :
    ((db.execWith env.apiKey .alterAccountAPIKey).1.isSome ∧
        addAccountAPIKeyField env db = (none, db)) ∨
    ∃ db₂, db.execWith env.apiKey .alterAccountAPIKey = (none, db₂) ∧
      ((∃ err, addAccountAPIKeyField env db = (some err, db₂)) ∨
        ∃ accounts db₃, listAllAccounts db₂ env.listing = .ok accounts ∧
          (defaultAPIKeys env.keys env.updates db₂ accounts).2 = db₃ ∧
          ((∃ err, addAccountAPIKeyField env db = (some err, db₃)) ∨
            addAccountAPIKeyField env db =
              db₃.execWith env.notNullable .alterAccountAPIKeyNotNullable)) := by
  rcases hx : db.execWith env.apiKey .alterAccountAPIKey with ⟨_ | err, db₂⟩
  · refine .inr ⟨db₂, rfl, ?_⟩
    rcases hlist : listAllAccounts db₂ env.listing with err | accounts
    · exact .inl ⟨err, by simp [addAccountAPIKeyField, hx, hlist]⟩
    · refine .inr ⟨accounts, _, rfl, rfl, ?_⟩
      rcases hd : defaultAPIKeys env.keys env.updates db₂ accounts with ⟨_ | err, db₃⟩
      · exact .inr (by simp [addAccountAPIKeyField, hx, hlist, hd])
      · exact .inl ⟨err, by simp [addAccountAPIKeyField, hx, hlist, hd]⟩
  · have hdb := execWith_alterAccountAPIKey_of_error
      (show (db.execWith env.apiKey .alterAccountAPIKey).1.isSome by simp [hx])
    rw [hx] at hdb
    subst hdb
    exact .inl ⟨rfl, by simp [addAccountAPIKeyField, hx]⟩

/-! ### After the migration -/

theorem execWith_notNullable_column {db : AccountDB} {fault : Option String}
    (h : (db.execWith fault .alterAccountAPIKeyNotNullable).1 = none) :
    (db.execWith fault .alterAccountAPIKeyNotNullable).2.apiKeyColumn = some true := by
  rcases fault with _ | err
  · simp only [AccountDB.execWith, AccountDB.exec] at h ⊢
    split_ifs at h ⊢
    rfl
  · simp [AccountDB.execWith] at h

theorem addAccountAPIKeyField_notNull (env : MigrationEnv) (db : AccountDB)
    (hadd : (db.execWith env.apiKey .alterAccountAPIKey).1 = none)
    (h : (addAccountAPIKeyField env db).1 = none) :
    (addAccountAPIKeyField env db).2.apiKeyColumn = some true := by
  rcases addAccountAPIKeyField_cases env db with
    ⟨hs, -⟩ | ⟨db₂, -, ⟨err, he⟩ | ⟨accounts, db₃, -, -, ⟨err, he⟩ | he⟩⟩
  · simp [hadd] at hs
  · simp [he] at h
  · simp [he] at h
  · rw [he] at h ⊢
    exact execWith_notNullable_column h

/-- After a `nil` `AlterAccountTable` whose `ADD COLUMN api_key` succeeded, with the listing
complete and no `updateAccount` fault, every row keeps a non-empty key whatever sequence of
starts and writes follows, with any faults and random outcomes. -/
theorem alterAccountTable_calls_keyed (env : MigrationEnv) (db : AccountDB)
    (keys : List (Option APIKey)) (cs : List AccountCall)
    (hadd : ((db.execWith env.resellerAPI .alterAccountResellerAPI).2.execWith env.apiKey
      .alterAccountAPIKey).1 = none)
    (hl : env.listing.broken = none) (hu : ∀ f ∈ env.updates, f = none)
    (h : (alterAccountTable env db).1 = none) :
    (runCalls ((alterAccountTable env db).2, keys) cs).1.allKeyed = true := by
  have hkeyed := (AccountDB.rowsSatisfy_nonempty_iff _).mpr
    ⟨addAccountAPIKeyField_notNull env _ hadd h,
      addAccountAPIKeyField_allKeyed env _ hadd (fun _ => AccountDB.query_delivered hl) hu h⟩
  exact ((AccountDB.rowsSatisfy_nonempty_iff _).mp
    (runCalls_rowsSatisfy (writeClosed_keyBy fun _ => length_pos_of_validAPIKey) cs hkeyed)).2

theorem alterAccountTable_calls_keyed_legacy :
    let env : MigrationEnv := ⟨none, none, ⟨none, none⟩, [some ⟨"0123456789", by decide⟩], [], none⟩
    let legacy : AccountDB := ⟨false, none, [⟨1, "acme", some "", none, none⟩], [], 2⟩
    (((legacy.execWith env.resellerAPI .alterAccountResellerAPI).2.execWith env.apiKey
        .alterAccountAPIKey).1 = none ∧ env.listing.broken = none ∧
      (∀ f ∈ env.updates, f = none) ∧ (alterAccountTable env legacy).1 = none) ∧
    (runCalls ((alterAccountTable env legacy).2, [])
      [.put none ⟨0, "bolt", "", false, ""⟩, .alter ⟨none, none, ⟨none, none⟩, [], [], none⟩,
        .put none ⟨0, "acme", "assertion", false, ""⟩,
        .updateUser none ⟨1, "acme", "", false, ""⟩ "alice"]).1.allKeyed = true :=
  ⟨⟨by decide, rfl, by simp, by decide⟩,
    alterAccountTable_calls_keyed _ _ _ _ (by decide) rfl (by simp) (by decide)⟩

/-! ### After a failed migration -/

theorem addAccountAPIKeyField_failed_nullable (env : MigrationEnv) (db : AccountDB)
    (hadd : (db.execWith env.apiKey .alterAccountAPIKey).1 = none)
    (hfail : (addAccountAPIKeyField env db).1.isSome) :
    (addAccountAPIKeyField env db).2.apiKeyColumn = some false := by
  rcases addAccountAPIKeyField_cases env db with
    ⟨hs, -⟩ | ⟨db₂, hx, ⟨err, he⟩ | ⟨accounts, db₃, -, hd, ⟨err, he⟩ | he⟩⟩
  · simp [hadd] at hs
  · rw [he]
    exact execWith_alterAccountAPIKey_column hx
  · rw [he, ← hd, defaultAPIKeys_apiKeyColumn]
    exact execWith_alterAccountAPIKey_column hx
  · rw [he] at hfail ⊢
    rw [AccountDB.execWith_of_error hfail]
    show db₃.apiKeyColumn = some false
    rw [← hd, defaultAPIKeys_apiKeyColumn]
    exact execWith_alterAccountAPIKey_column hx

theorem alterAccountTable_of_nullable (env : MigrationEnv) {db : AccountDB}
    (h : db.apiKeyColumn = some false) :
    (alterAccountTable env db).1 = none ∧ (alterAccountTable env db).2.apiKeyColumn = some false ∧
      (alterAccountTable env db).2.rows.map AccountRow.apiKey = db.rows.map AccountRow.apiKey := by
  rw [alterAccountTable_of_column env (by simp [h])]
  refine ⟨rfl, execWith_of_exec (fun db' => db'.apiKeyColumn = some false ∧
    db'.rows.map AccountRow.apiKey = db.rows.map AccountRow.apiKey) _ _ (fun _ => ⟨h, rfl⟩)
    fun db' he => ?_⟩
  simp only [AccountDB.exec] at he
  split_ifs at he <;> cases he
  exact ⟨h, by simp [Function.comp_def]⟩

/-- After an `AlterAccountTable` run that added the `api_key` column and then failed, no later
start repairs the table: the column stays nullable, every key stays as the failed run left it,
empty ones included, and the next start returns `nil` at its failing `ADD COLUMN api_key`. -/
theorem alterAccountTable_failed_never_repaired (env : MigrationEnv) (db : AccountDB)
    (envs : List MigrationEnv)
    (hadd : ((db.execWith env.resellerAPI .alterAccountResellerAPI).2.execWith env.apiKey
      .alterAccountAPIKey).1 = none)
    (hfail : (alterAccountTable env db).1.isSome) :
    let restarted := envs.foldl (fun db env => (alterAccountTable env db).2) (alterAccountTable env db).2
    restarted.apiKeyColumn = some false ∧
      restarted.rows.map AccountRow.apiKey = (alterAccountTable env db).2.rows.map AccountRow.apiKey ∧
      ∀ env', (alterAccountTable env' restarted).1 = none := by
  intro restarted
  suffices h : ∀ db₁ : AccountDB, db₁.apiKeyColumn = some false →
      (envs.foldl (fun db env => (alterAccountTable env db).2) db₁).apiKeyColumn = some false ∧
        (envs.foldl (fun db env => (alterAccountTable env db).2) db₁).rows.map AccountRow.apiKey =
          db₁.rows.map AccountRow.apiKey by
    obtain ⟨hcol, hkeys⟩ := h _ (addAccountAPIKeyField_failed_nullable env _ hadd hfail)
    exact ⟨hcol, hkeys, fun env' => (alterAccountTable_of_nullable env' hcol).1⟩
  induction envs with
  | nil => exact fun _ h => ⟨h, rfl⟩
  | cons env₁ envs ih =>
    intro db₁ h
    obtain ⟨-, hcol, hkeys⟩ := alterAccountTable_of_nullable env₁ h
    obtain ⟨hcol', hkeys'⟩ := ih _ hcol
    exact ⟨hcol', hkeys'.trans hkeys⟩

theorem alterAccountTable_failed_never_repaired_acme :
    let env : MigrationEnv := ⟨none, none, ⟨none, none⟩, [none], [], none⟩
    let db : AccountDB := ⟨true, none, [⟨1, "acme", some "", some false, none⟩], [], 2⟩
    let envs : List MigrationEnv :=
      [⟨none, none, ⟨none, none⟩, [some ⟨"0123456789", by decide⟩], [], none⟩,
        ⟨none, none, ⟨none, none⟩, [], [], none⟩]
    (((db.execWith env.resellerAPI .alterAccountResellerAPI).2.execWith env.apiKey
        .alterAccountAPIKey).1 = none ∧ (alterAccountTable env db).1.isSome) ∧
    let restarted := envs.foldl (fun db env => (alterAccountTable env db).2) (alterAccountTable env db).2
    restarted.apiKeyColumn = some false ∧
      restarted.rows.map AccountRow.apiKey = (alterAccountTable env db).2.rows.map AccountRow.apiKey ∧
      ∀ env', (alterAccountTable env' restarted).1 = none :=
  ⟨⟨by decide, by decide⟩, alterAccountTable_failed_never_repaired _ _ _ (by decide) (by decide)⟩

/-! ### The `id` sequence -/

section stmtClosed

variable {P : AccountDB → Prop} (hP : ∀ db, P db → ∀ s, P (db.exec s).2)
include hP

theorem execWith_of_stmtClosed {db : AccountDB} (h : P db) (fault : Option String)
    (s : AccountStmt) : P (db.execWith fault s).2 := by
  rcases fault with _ | err
  · exact hP db h s
  · exact h

theorem execWithValidAPIKey_of_stmtClosed (stmt : Account → AccountStmt)
    (keys : List (Option APIKey)) (fault : Option String) (account : Account) {db : AccountDB}
    (h : P db) : P (execWithValidAPIKey stmt keys fault account db).2.1 := by
  unfold execWithValidAPIKey
  rcases buildValidOrDefaultAPIKey keys account.apiKey with ⟨_ | apiKey, rest⟩
  · exact h
  · exact execWith_of_stmtClosed hP h _ _

theorem defaultAPIKeys_of_stmtClosed (keys : List (Option APIKey)) (updates : List (Option String))
    {db : AccountDB} (accounts : List Account) (h : P db) :
    P (defaultAPIKeys keys updates db accounts).2 := by
  induction accounts generalizing keys updates db with
  | nil => exact h
  | cons acc accounts ih =>
    simp only [defaultAPIKeys]
    split_ifs
    · exact ih _ _ h
    · split
      · exact h
      · exact ih _ _ (execWithValidAPIKey_of_stmtClosed hP _ _ _ _ h)

/-- A property of the table that every statement keeps, whether it succeeds or fails, is kept by
every call. -/
theorem AccountCall.apply_of_stmtClosed (c : AccountCall) (st : AccountDB × List (Option APIKey))
    (h : P st.1) : P (c.apply st).1 := by
  obtain ⟨db, keys⟩ := st
  cases c with
  | alter env =>
    have h₁ : P (db.execWith env.resellerAPI .alterAccountResellerAPI).2 :=
      execWith_of_stmtClosed hP h _ _
    simp only [AccountCall.apply, alterAccountTable]
    rcases addAccountAPIKeyField_cases env (db.execWith env.resellerAPI .alterAccountResellerAPI).2
      with ⟨-, he⟩ | ⟨db₂, hx, hrest⟩
    · rw [he]
      exact h₁
    have h₂ : P db₂ := by
      simpa [hx] using execWith_of_stmtClosed hP h₁ env.apiKey .alterAccountAPIKey
    rcases hrest with ⟨err, he⟩ | ⟨accounts, db₃, -, hd, ⟨err, he⟩ | he⟩ <;> rw [he]
    · exact h₂
    · exact hd ▸ defaultAPIKeys_of_stmtClosed hP _ _ _ h₂
    · exact execWith_of_stmtClosed hP (hd ▸ defaultAPIKeys_of_stmtClosed hP _ _ _ h₂) _ _
  | create fault account => exact execWithValidAPIKey_of_stmtClosed hP _ keys fault account h
  | update fault account => exact execWithValidAPIKey_of_stmtClosed hP _ keys fault account h
  | updateUser fault account username =>
    exact execWithValidAPIKey_of_stmtClosed hP _ keys fault account h
  | put fault account => exact execWith_of_stmtClosed hP h fault _

theorem runCalls_of_stmtClosed (cs : List AccountCall) {st : AccountDB × List (Option APIKey)}
    (h : P st.1) : P (runCalls st cs).1 := by
  induction cs generalizing st with
  | nil => exact h
  | cons c cs ih => exact ih (c.apply_of_stmtClosed hP st h)

end stmtClosed

/-- The ids the `serial` column has handed out: distinct, and each below the sequence's next
value. -/
structure AccountDB.SerialIds (db : AccountDB) : Prop where
  nodup : (db.rows.map AccountRow.id).Nodup
  below : ∀ id ∈ db.rows.map AccountRow.id, id < db.serial

theorem AccountDB.SerialIds.keep {db db' : AccountDB} (h : db.SerialIds)
    (hids : db'.rows.map AccountRow.id = db.rows.map AccountRow.id) (hs : db.serial ≤ db'.serial) :
    db'.SerialIds :=
  ⟨hids ▸ h.nodup, fun id hid => lt_of_lt_of_le (h.below id (hids ▸ hid)) hs⟩

theorem AccountDB.SerialIds.append {db db' : AccountDB} (h : db.SerialIds)
    (hids : db'.rows.map AccountRow.id = db.rows.map AccountRow.id ++ [db.serial])
    (hs : db'.serial = db.serial + 1) : db'.SerialIds := by
  refine ⟨hids ▸ h.nodup.append (List.nodup_singleton _)
    (List.disjoint_singleton.mpr fun hm => lt_irrefl _ (h.below _ hm)), fun id hid => ?_⟩
  rw [hids] at hid
  rcases List.mem_append.mp hid with hid | hid
  · have := h.below id hid
    omega
  · rw [List.mem_singleton.mp hid]
    omega

theorem map_id_map {rows : List AccountRow} {f : AccountRow → AccountRow}
    (hf : ∀ r, (f r).id = r.id) : (rows.map f).map AccountRow.id = rows.map AccountRow.id := by
  simp [Function.comp_def, hf]

/-- Every statement keeps the ids: an `INSERT` appends the value it drew, an `UPDATE` rewrites
rows under their own id, and a refused statement at most advances the sequence. -/
theorem exec_serialIds {db : AccountDB} (h : db.SerialIds) (s : AccountStmt) :
    (db.exec s).2.SerialIds := by
  have hdraw : db.drawSerial.SerialIds := h.keep rfl (by simp only [AccountDB.drawSerial]; omega)
  cases s with
  | createAccountSQL account =>
    simp only [AccountDB.exec]
    split
    · exact h
    · split_ifs
      · exact hdraw
      · exact h.append (by simp [AccountDB.drawSerial]) rfl
  | updateAccountSQL account =>
    simp only [AccountDB.exec]
    split
    · exact h
    · exact h.keep (map_id_map fun r => by split_ifs with hr <;> simp [hr, Account.toRow]) le_rfl
  | updateUserAccountSQL => exact h
  | upsertAccountSQL authorityID assertion =>
    simp only [AccountDB.exec]
    by_cases hany : db.rows.any (·.authorityID == authorityID)
    · rw [if_pos hany]
      exact h.keep (map_id_map fun r => by split_ifs <;> rfl) le_rfl
    · rw [if_neg hany]
      by_cases hc : db.apiKeyColumn = some true
      · rw [if_pos hc]
        exact hdraw
      · rw [if_neg hc]
        exact h.append (by simp [AccountDB.drawSerial]) rfl
  | _ =>
    simp only [AccountDB.exec]
    split_ifs
    all_goals first | exact h | exact h.keep (map_id_map fun _ => rfl) le_rfl | exact h.keep rfl le_rfl

theorem filter_id_eq_singleton {rows : List AccountRow} (h : (rows.map AccountRow.id).Nodup)
    {r : AccountRow} (hr : r ∈ rows) : rows.filter (·.id == r.id) = [r] := by
  induction rows with
  | nil => cases hr
  | cons x xs ih =>
    obtain ⟨hx, hxs⟩ := List.nodup_cons.mp h
    rcases List.mem_cons.mp hr with rfl | hr
    · rw [List.filter_cons_of_pos (by simp), List.filter_eq_nil_iff.mpr]
      exact fun y hy hyx => hx (by simpa [(beq_iff_eq.mp hyx).symm] using List.mem_map_of_mem _ hy)
    · have hne : x.id ≠ r.id := fun he => hx (he ▸ List.mem_map_of_mem _ hr)
      rw [List.filter_cons_of_neg (by simpa using hne), ih hxs hr]

/-- On a database without the account table, after a `nil` `CreateAccountTable` and any sequence
of starts and writes, with any faults and random outcomes, the ids of the rows are distinct and
below the sequence's next value, refused inserts having used up theirs; so `getAccountByID` of a
row's id returns that row, as an account with a valid key. -/
theorem startup_calls_getAccountByID (userAccounts : List (String × ℤ)) (fault : Option String)
    (keys : List (Option APIKey)) (cs : List AccountCall) {db₀ : AccountDB}
    (h : createAccountTable userAccounts fault none = (none, some db₀)) :
    let db := (runCalls (db₀, keys) cs).1
    (db.rows.map AccountRow.id).Nodup ∧ (∀ r ∈ db.rows, r.id < db.serial) ∧
      ∀ r ∈ db.rows, ∃ account, getAccountByID db none r.id = .ok account ∧
        account.toRow = r ∧ validAPIKey account.apiKey = true := by
  have hdb₀ : db₀ = AccountDB.created userAccounts := by
    rcases fault with _ | err <;> simp [createAccountTable] at h
    exact h.symm
  subst hdb₀
  intro db
  have hids : db.SerialIds := runCalls_of_stmtClosed (P := AccountDB.SerialIds)
    (fun _ => exec_serialIds) cs ⟨List.nodup_nil, by simp [AccountDB.created]⟩
  have hl : db.RowsSatisfy AccountRow.Listable :=
    runCalls_rowsSatisfy writeClosed_listable cs ⟨rfl, by simp [AccountDB.created]⟩
  have hcol : db.resellerAPIColumn = true :=
    runCalls_resellerAPIColumn cs
      (show (AccountDB.created userAccounts, keys).1.apiKeyColumn = some true from rfl) rfl
  have hc : db.missingColumn = none := by simp [AccountDB.missingColumn, hcol, hl.1]
  refine ⟨hids.nodup, fun r hr => hids.below _ (List.mem_map_of_mem _ hr), fun r hr => ?_⟩
  obtain ⟨account, hs, hv⟩ := hl.2 r hr
  refine ⟨account, ?_, scanAccount_ok hs, hv⟩
  simp [getAccountByID, AccountDB.queryRow, AccountDB.select, hc,
    filter_id_eq_singleton hids.nodup hr, hs]

theorem startup_calls_getAccountByID_gap :
    createAccountTable [] none none = (none, some (AccountDB.created [])) ∧
    let db := (runCalls (AccountDB.created [],
      [some ⟨"0123456789", by decide⟩, some ⟨"9876543210", by decide⟩])
      [.create none (buildAccountFromAuthorityID "acme"),
        .put none (buildAccountFromAuthorityID "new"),
        .create none (buildAccountFromAuthorityID "bolt")]).1
    (db.rows.map AccountRow.id).Nodup ∧ (∀ r ∈ db.rows, r.id < db.serial) ∧
      ∀ r ∈ db.rows, ∃ account, getAccountByID db none r.id = .ok account ∧
        account.toRow = r ∧ validAPIKey account.apiKey = true :=
  ⟨rfl, startup_calls_getAccountByID [] none _ _ rfl⟩

end IdentityVault
