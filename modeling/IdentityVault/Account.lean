import Mathlib.Data.List.Sort

/-! # Accounts

The account manager of the datastore over a model of the `account` table.

* **Table.** `AccountDB` holds the table's optional columns (`resellerapi`, and `api_key` with
  whether it is `NOT NULL`), its rows with SQL NULL as `none`, the pairs (username, account id)
  that `useraccountlink` joined with `userinfo` relates, and the next value of the sequence of
  the `serial` column `id`.  `AccountDB.exec` gives the meaning of the statements the account
  manager runs, `AccountDB.select` the rows of its queries.  A failed statement is rolled back,
  except for the value an `INSERT` drew from the sequence (`AccountDB.exec_of_error`).
* **Faults.** Any `db.Exec` or `db.Query` may fail whatever the table holds: each call takes
  the fault the environment injects (`none` for none).  A query's rows come as `Rows`: the
  complete result set, and where the driver breaks off, an error that `database/sql` reports
  only through `rows.Err()` once `rows.Next()` has returned false.
* **Code.** `rowsToAccounts` scans the rows `Next` delivers into `Account`s and never consults
  `rows.Err()`: it returns `nil` with one account per *delivered* row
  (`rowsToAccounts_ok_iff`), so a broken-off result set reads as a shorter one
  (`rowsToAccounts_drops_iteration_error`).  `ListUserAccounts`, `ListNotUserAccounts` and
  `listAccountsFilteredByUser` are `queryAccounts` applied to their query.
* **Writes.** `CreateAccount`, `updateAccount` and `updateUserAccount` are one body,
  `execWithValidAPIKey`, applied to their statement: a call fails leaving the table as it was,
  or has written the account with a valid key (`execWithValidAPIKey_spec`, `createAccount_ok`).
  Read as Postgres reads them, two statements never succeed: `updateUserAccountSQL` is not valid
  SQL (`updateUserAccount_fails`) and `getUserAccountByIDSQL` names an ambiguous column
  (`getUserAccountByID_fails`); and the upsert of `putAccount` cannot insert, leaving the
  `NOT NULL` `api_key` empty (`putAccount_new_authority_fails`).
-/

namespace IdentityVault

/-! ### Rows and scanning -/

/-- A result set as `database/sql` streams it: the complete result set, and `some (n, err)` when
the driver breaks off after `n` rows with `err`. -/
structure Rows (α : Type) where
  result : List α
  broken : Option (ℕ × String)
deriving DecidableEq, Repr

/-- The rows `rows.Next()` delivers before it returns false. -/
def Rows.delivered {α : Type} (rows : Rows α) : List α :=
  match rows.broken with
  | none => rows.result
  | some (n, _) => rows.result.take n

@[simp] theorem Rows.delivered_complete {α : Type} (result : List α) :
    (Rows.mk result none).delivered = result := rfl

/-- `Account`: a store account as the account manager returns it. -/
structure Account where
  id : ℤ
  authorityID : String
  assertion : String
  resellerAPI : Bool
  apiKey : String
deriving DecidableEq, Repr

/-- A row of the `account` table; `none` is SQL NULL. -/
structure AccountRow where
  id : ℤ
  authorityID : String
  assertion : Option String
  resellerAPI : Option Bool
  apiKey : Option String
deriving DecidableEq, Repr

/-- The error of `rows.Scan` when converting column `i` fails with `err`. -/
def scanError (i : ℕ) (column err : String) : String :=
  "sql: Scan error on column index " ++ toString i ++ ", name \"" ++ column ++ "\": " ++ err

/-- `convertAssign`'s error for a NULL scanned into a `string`. -/
def nullToStringError : String := "converting NULL to string is unsupported"

/-- `driver.Bool.ConvertValue`'s error for a NULL scanned into a `bool`. -/
def nullToBoolError : String := "sql/driver: couldn't convert <nil> (<nil>) into type bool"

/-- `rows.Scan(&account.ID, &account.AuthorityID, &account.Assertion, &account.ResellerAPI,
&account.APIKey)`: fails on the first NULL column. -/
def scanAccount (row : AccountRow) : Except String Account :=
  match row.assertion, row.resellerAPI, row.apiKey with
  | some assertion, some resellerAPI, some apiKey =>
    .ok ⟨row.id, row.authorityID, assertion, resellerAPI, apiKey⟩
  | none, _, _ => .error (scanError 2 "assertion" nullToStringError)
  | some _, none, _ => .error (scanError 3 "resellerapi" nullToBoolError)
  | some _, some _, none => .error (scanError 4 "api_key" nullToStringError)

/-- The loop of `rowsToAccounts`: scan each delivered row and append it; stop at the first
`Scan` error. -/
def rowsToAccountsLoop (accounts : List Account) : List AccountRow → Except String (List Account)
  | [] => .ok accounts
  | row :: rest =>
    match scanAccount row with
    | .error err => .error err
    | .ok account => rowsToAccountsLoop (accounts ++ [account]) rest

/-- `rowsToAccounts`: the loop over `rows.Next()`; `rows.Err()` is not consulted. -/
def rowsToAccounts (rows : Rows AccountRow) : Except String (List Account) :=
  rowsToAccountsLoop [] rows.delivered

theorem rowsToAccountsLoop_ok_iff (accounts : List Account) (rows : List AccountRow)
    (result : List Account) :
    rowsToAccountsLoop accounts rows = .ok result ↔
      ∃ scanned, result = accounts ++ scanned ∧
        List.Forall₂ (fun row account => scanAccount row = .ok account) rows scanned := by
  induction rows generalizing accounts with
  | nil => simp [rowsToAccountsLoop, eq_comm]
  | cons row rest ih =>
    simp only [rowsToAccountsLoop, List.forall₂_cons_left_iff]
    cases h : scanAccount row with
    | error err => simp
    | ok account =>
      simp only [ih, Except.ok.injEq]
      constructor
      · rintro ⟨scanned, rfl, hs⟩
        exact ⟨account :: scanned, by simp, account, scanned, rfl, hs, rfl⟩
      · rintro ⟨_, rfl, b, scanned, rfl, hs, rfl⟩
        exact ⟨scanned, by simp, hs⟩

theorem forall₂_exists_of_mem {α β : Type} {R : α → β → Prop} {l₁ : List α} {l₂ : List β}
    (h : List.Forall₂ R l₁ l₂) {a : α} (ha : a ∈ l₁) : ∃ b ∈ l₂, R a b := by
  induction h with
  | nil => cases ha
  | cons hab _ ih =>
    rcases List.mem_cons.mp ha with rfl | ha
    · exact ⟨_, List.mem_cons_self _ _, hab⟩
    · obtain ⟨b, hb, h⟩ := ih ha
      exact ⟨b, List.mem_cons_of_mem _ hb, h⟩

/-- `rowsToAccounts` answers `nil` exactly when every row `Next` delivered scans, and then with
one account per delivered row, in order. -/
theorem rowsToAccounts_ok_iff (rows : Rows AccountRow) (accounts : List Account) :
    rowsToAccounts rows = .ok accounts ↔
      List.Forall₂ (fun row account => scanAccount row = .ok account) rows.delivered accounts := by
  simp [rowsToAccounts, rowsToAccountsLoop_ok_iff]

/-! ### The table -/

/-- The `account` table: whether the optional columns exist (`apiKeyColumn` is `some notNull`
when `api_key` does), its rows, the (username, account id) pairs of the user links, and the
value the sequence of the `serial` column `id` hands out next. -/
structure AccountDB where
  resellerAPIColumn : Bool
  apiKeyColumn : Option Bool
  rows : List AccountRow
  userAccounts : List (String × ℤ)
  serial : ℤ
deriving DecidableEq, Repr

/-- The row an `UPDATE` writes for an account. -/
def Account.toRow (account : Account) : AccountRow :=
  ⟨account.id, account.authorityID, some account.assertion, some account.resellerAPI,
    some account.apiKey⟩

theorem scanAccount_ok {row : AccountRow} {account : Account}
    (h : scanAccount row = .ok account) : account.toRow = row := by
  obtain ⟨id, authorityID, _ | assertion, _ | resellerAPI, _ | apiKey⟩ := row <;>
    simp [scanAccount] at h
  subst h
  rfl

/-- `a` comes before `b` in `order by authority_id` (the core string order). -/
def AccountRow.authorityLE (a b : AccountRow) : Bool :=
  @decide _ (String.decLE a.authorityID b.authorityID)

/-- The statements the account manager runs, with their arguments. -/
inductive AccountStmt where
  | alterAccountResellerAPI
  | alterAccountAPIKey
  | alterAccountAPIKeyNotNullable
  | createAccountSQL (account : Account)
  | updateAccountSQL (account : Account)
  | updateUserAccountSQL (account : Account) (username : String)
  | upsertAccountSQL (authorityID assertion : String)
deriving DecidableEq, Repr

/-- The queries the account manager runs, with their arguments. -/
inductive AccountQuery where
  | listAccountsSQL
  | getAccountSQL (authorityID : String)
  | getAccountByIDSQL (accountID : ℤ)
  | getUserAccountByIDSQL (accountID : ℤ) (username : String)
  | listUserAccountsSQL (username : String)
  | listNotUserAccountsSQL (username : String)
deriving DecidableEq, Repr

namespace AccountDB

/-- The first column the queries and the update name that the table lacks. -/
def missingColumn (db : AccountDB) : Option String :=
  if !db.resellerAPIColumn then some "resellerapi"
  else if db.apiKeyColumn.isNone then some "api_key"
  else none

/-- Postgres' error for a missing column. -/
def noColumnError (column : String) : String := "pq: column \"" ++ column ++ "\" does not exist"

/-- Postgres' error for adding a column that exists. -/
def columnExistsError (column : String) : String :=
  "pq: column \"" ++ column ++ "\" of relation \"account\" already exists"

/-- Postgres' error for a second row with the `authority_id` of another (`unique`). -/
def duplicateAuthorityError : String :=
  "pq: duplicate key value violates unique constraint \"account_authority_id_key\""

/-- Postgres' error for an insert that leaves a `NOT NULL` column without a value. -/
def notNullError (column : String) : String :=
  "pq: null value in column \"" ++ column ++ "\" violates not-null constraint"

/-- `nextval` of the `id` sequence: the value is taken, and never given back. -/
def drawSerial (db : AccountDB) : AccountDB := { db with serial := db.serial + 1 }

/-- What a statement does when the database runs it: its error (`none` when it succeeds) and the
table after it.  A failed statement is rolled back, except for the values it drew from the `id`
sequence: an `INSERT` draws one for each row it forms, before the constraints are checked. -/
def exec (db : AccountDB) : AccountStmt → Option String × AccountDB
  | .alterAccountResellerAPI =>
    if db.resellerAPIColumn then (some (columnExistsError "resellerapi"), db)
    else (none, { db with resellerAPIColumn := true,
                          rows := db.rows.map fun r => { r with resellerAPI := some false } })
  | .alterAccountAPIKey =>
    if db.apiKeyColumn.isSome then (some (columnExistsError "api_key"), db)
    else (none, { db with apiKeyColumn := some false,
                          rows := db.rows.map fun r => { r with apiKey := some "" } })
  | .alterAccountAPIKeyNotNullable =>
    if db.apiKeyColumn.isNone then (some (noColumnError "api_key"), db)
    else if db.rows.any (·.apiKey.isNone) then
      (some "pq: column \"api_key\" contains null values", db)
    else (none, { db with apiKeyColumn := some true })
  | .createAccountSQL account =>
    match db.missingColumn with
    | some column => (some (noColumnError column), db)
    | none =>
      if db.rows.any (·.authorityID == account.authorityID) then
        (some duplicateAuthorityError, db.drawSerial)
      else (none, { db.drawSerial with rows := db.rows ++ [{ account.toRow with id := db.serial }] })
  | .updateAccountSQL account =>
    match db.missingColumn with
    | some column => (some (noColumnError column), db)
    | none =>
      (none, { db with rows := db.rows.map fun r => if r.id = account.id then account.toRow else r })
  -- `UPDATE account a SET … INNER JOIN …`: Postgres' `UPDATE` takes no join after `SET`
  | .updateUserAccountSQL _ _ => (some "pq: syntax error at or near \"INNER\"", db)
  -- the `WITH upsert AS (update … RETURNING *) insert … where not exists (select * from upsert)`
  | .upsertAccountSQL authorityID assertion =>
    if db.rows.any (·.authorityID == authorityID) then
      (none, { db with rows := db.rows.map fun r =>
        if r.authorityID = authorityID then { r with assertion := some assertion } else r })
    else if db.apiKeyColumn = some true then (some (notNullError "api_key"), db.drawSerial)
    else (none, { db.drawSerial with rows := db.rows ++ [⟨db.serial, authorityID, some assertion,
      if db.resellerAPIColumn then some false else none, db.apiKeyColumn.map fun _ => ""⟩] })

/-- The rows a query selects: all of them in `authority_id` order, those of an authority or an
id, or those linked, or not linked, to the user.  `getUserAccountByIDSQL` filters on `id`, a
column of both `account` and `userinfo` in its join, which Postgres refuses as ambiguous. -/
def select (db : AccountDB) (q : AccountQuery) : Except String (List AccountRow) :=
  match db.missingColumn with
  | some column => .error (noColumnError column)
  | none => match q with
    | .listAccountsSQL => .ok (db.rows.insertionSort fun a b => a.authorityLE b = true)
    | .getAccountSQL authorityID => .ok (db.rows.filter (·.authorityID == authorityID))
    | .getAccountByIDSQL accountID => .ok (db.rows.filter (·.id == accountID))
    | .getUserAccountByIDSQL _ _ => .error "pq: column reference \"id\" is ambiguous"
    | .listUserAccountsSQL username =>
      .ok (db.rows.filter fun r => (username, r.id) ∈ db.userAccounts)
    | .listNotUserAccountsSQL username =>
      .ok (db.rows.filter fun r => (username, r.id) ∉ db.userAccounts)

/-- `db.Exec(stmt)` with the fault the environment injects: its error, and the table after. -/
def execWith (db : AccountDB) (fault : Option String) (s : AccountStmt) : Option String × AccountDB :=
  match fault with
  | some err => (some err, db)
  | none => db.exec s

theorem exec_of_error {db : AccountDB} {s : AccountStmt} (h : (db.exec s).1.isSome) :
    (db.exec s).2 = { db with serial := (db.exec s).2.serial } := by
  rcases he : db.exec s with ⟨_ | err, db'⟩
  · simp [he] at h
  · cases s <;> simp only [exec] at he <;> (repeat' split at he) <;> cases he <;> rfl

theorem execWith_of_error {db : AccountDB} {fault : Option String} {s : AccountStmt}
    (h : (db.execWith fault s).1.isSome) :
    (db.execWith fault s).2 = { db with serial := (db.execWith fault s).2.serial } := by
  rcases fault with _ | err
  · exact exec_of_error h
  · rfl

end AccountDB

/-- The faults of one `db.Query` call: its own error, and where its rows break off. -/
structure QueryFaults where
  query : Option String
  broken : Option (ℕ × String)
deriving DecidableEq, Repr

/-- `db.Query(sql, args...)`: the selected rows, streamed with the injected break. -/
def AccountDB.query (db : AccountDB) (f : QueryFaults) (q : AccountQuery) :
    Except String (Rows AccountRow) :=
  match f.query with
  | some err => .error err
  | none => (db.select q).map fun result => ⟨result, f.broken⟩

theorem AccountDB.query_delivered {db : AccountDB} {f : QueryFaults} {q : AccountQuery}
    {rows : Rows AccountRow} (hb : f.broken = none) (h : db.query f q = .ok rows) :
    rows.delivered = rows.result := by
  obtain ⟨_ | err, broken⟩ := f
  · cases hs : db.select q <;> simp [AccountDB.query, hs, Except.map] at h
    subst h hb
    rfl
  · simp [AccountDB.query] at h

/-! ### The account manager -/

/-- Query, then `rowsToAccounts` on the rows: the body shared by `ListUserAccounts`,
`ListNotUserAccounts` and `listAccountsFilteredByUser` (the deferred `rows.Close()` changes
nothing the model sees). -/
def queryAccounts (db : AccountDB) (f : QueryFaults) (q : AccountQuery) :
    Except String (List Account) :=
  match db.query f q with
  | .error err => .error err
  | .ok rows => rowsToAccounts rows

/-- `anyUserFilter`. -/
def anyUserFilter : String := ""

/-- `listAccountsFilteredByUser`: every account for a blank username, the user's otherwise. -/
def listAccountsFilteredByUser (db : AccountDB) (f : QueryFaults) (username : String) :
    Except String (List Account) :=
  queryAccounts db f
    (if username.length = 0 then .listAccountsSQL else .listUserAccountsSQL username)

/-- `listAllAccounts`. -/
def listAllAccounts (db : AccountDB) (f : QueryFaults) : Except String (List Account) :=
  listAccountsFilteredByUser db f anyUserFilter

/-- `ListUserAccounts`. -/
def listUserAccounts (db : AccountDB) (f : QueryFaults) (username : String) :
    Except String (List Account) :=
  queryAccounts db f (.listUserAccountsSQL username)

/-- `ListNotUserAccounts`. -/
def listNotUserAccounts (db : AccountDB) (f : QueryFaults) (username : String) :
    Except String (List Account) :=
  queryAccounts db f (.listNotUserAccountsSQL username)

/-- Two scannable rows, the driver breaking off after the first: `rowsToAccounts` answers `nil`
with one account, and so does `ListUserAccounts` for a user linked to both. -/
theorem rowsToAccounts_drops_iteration_error :
    rowsToAccounts
        ⟨[⟨1, "acme", some "", some false, some "0123456789"⟩,
          ⟨2, "bolt", some "", some false, some "9876543210"⟩],
         some (1, "driver: bad connection")⟩ =
      .ok [⟨1, "acme", "", false, "0123456789"⟩] ∧
    listUserAccounts
        ⟨true, some true,
          [⟨1, "acme", some "", some false, some "0123456789"⟩,
           ⟨2, "bolt", some "", some false, some "9876543210"⟩],
          [("alice", 1), ("alice", 2)], 3⟩
        ⟨none, some (1, "driver: bad connection")⟩ "alice" =
      .ok [⟨1, "acme", "", false, "0123456789"⟩] :=
  ⟨rfl, rfl⟩

/-! ### API keys -/

/-- Modelled from the spec: the key check of `buildValidOrDefaultAPIKey` is not under src/;
the admin UI describes a valid key as one of at least 10 characters, generated if blank or
invalid. -/
def validAPIKey (apiKey : String) : Bool := 10 ≤ apiKey.length

/-- A key the random source hands out: a valid one. -/
structure APIKey where
  key : String
  valid : validAPIKey key = true
deriving DecidableEq

/-- Modelled from the spec: `generateAPIKey` is not under src/.  It takes the next outcome of
the random source (`none` when generation fails); an exhausted source fails. -/
def generateAPIKey : List (Option APIKey) → Option String × List (Option APIKey)
  | [] => (none, [])
  | k :: keys => (k.map APIKey.key, keys)

theorem generateAPIKey_valid {keys rest : List (Option APIKey)} {apiKey : String}
    (h : generateAPIKey keys = (some apiKey, rest)) : validAPIKey apiKey = true := by
  match keys, h with
  | some k :: _, h =>
    simp only [generateAPIKey, Option.map_some', Prod.mk.injEq, Option.some.injEq] at h
    exact h.1 ▸ k.valid

/-- Modelled from the spec: `buildValidOrDefaultAPIKey` is not under src/; a valid key is kept,
a blank or invalid one is replaced by a generated one. -/
def buildValidOrDefaultAPIKey (keys : List (Option APIKey)) (apiKey : String) :
    Option String × List (Option APIKey) :=
  if validAPIKey apiKey then (some apiKey, keys) else generateAPIKey keys

/-- The body `CreateAccount`, `updateAccount` and `updateUserAccount` share: a valid or generated
key, then `stmt` on the account with that key, under the injected `fault` of its `db.Exec`.
Also returns what is left of the random source. -/
def execWithValidAPIKey (stmt : Account → AccountStmt) (keys : List (Option APIKey))
    (fault : Option String) (account : Account) (db : AccountDB) :
    Option String × AccountDB × List (Option APIKey) :=
  match buildValidOrDefaultAPIKey keys account.apiKey with
  | (none, keys) => (some "Error in generating a valid API key", db, keys)
  | (some apiKey, keys) =>
    let r := db.execWith fault (stmt { account with apiKey := apiKey })
    (r.1, r.2, keys)

theorem buildValidOrDefaultAPIKey_valid {keys rest : List (Option APIKey)} {key apiKey : String}
    (h : buildValidOrDefaultAPIKey keys key = (some apiKey, rest)) :
    validAPIKey apiKey = true ∧ (validAPIKey key = true → apiKey = key) := by
  unfold buildValidOrDefaultAPIKey at h
  split_ifs at h with hv
  · cases h
    exact ⟨hv, fun _ => rfl⟩
  · exact ⟨generateAPIKey_valid h, fun h' => absurd h' hv⟩

theorem execWithValidAPIKey_of_valid (stmt : Account → AccountStmt) (keys : List (Option APIKey))
    (fault : Option String) (account : Account) (db : AccountDB)
    (hv : validAPIKey account.apiKey = true) :
    execWithValidAPIKey stmt keys fault account db =
      ((db.execWith fault (stmt account)).1, (db.execWith fault (stmt account)).2, keys) := by
  simp [execWithValidAPIKey, buildValidOrDefaultAPIKey, hv]

/-- A call of the family either fails, leaving the table as it was but for the sequence, or has
run `stmt`, with no fault, on the account with a valid key: its own when that is valid, a
generated one otherwise. -/
theorem execWithValidAPIKey_spec (stmt : Account → AccountStmt) (keys : List (Option APIKey))
    (fault : Option String) (account : Account) (db : AccountDB) :
    ((execWithValidAPIKey stmt keys fault account db).1.isSome ∧
        (execWithValidAPIKey stmt keys fault account db).2.1 =
          { db with serial := (execWithValidAPIKey stmt keys fault account db).2.1.serial }) ∨
      ((execWithValidAPIKey stmt keys fault account db).1 = none ∧ fault = none ∧
        ∃ apiKey, validAPIKey apiKey = true ∧ (validAPIKey account.apiKey = true → apiKey = account.apiKey) ∧
          db.exec (stmt { account with apiKey := apiKey }) =
            (none, (execWithValidAPIKey stmt keys fault account db).2.1)) := by
  unfold execWithValidAPIKey
  rcases hb : buildValidOrDefaultAPIKey keys account.apiKey with ⟨_ | apiKey, rest⟩
  · simp
  obtain ⟨hv, hown⟩ := buildValidOrDefaultAPIKey_valid hb
  dsimp only
  rcases he : db.execWith fault (stmt { account with apiKey := apiKey }) with ⟨_ | err, db'⟩
  · rcases fault with _ | err
    · exact .inr ⟨rfl, rfl, apiKey, hv, hown, he⟩
    · cases he
  · have hdb := AccountDB.execWith_of_error (show (db.execWith fault
      (stmt { account with apiKey := apiKey })).1.isSome by simp [he])
    rw [he] at hdb
    exact .inl ⟨rfl, hdb⟩

/-- `CreateAccount`. -/
def createAccount (keys : List (Option APIKey)) (fault : Option String) (account : Account)
    (db : AccountDB) : Option String × AccountDB × List (Option APIKey) :=
  execWithValidAPIKey .createAccountSQL keys fault account db

/-- `updateAccount`. -/
def updateAccount (keys : List (Option APIKey)) (fault : Option String) (account : Account)
    (db : AccountDB) : Option String × AccountDB × List (Option APIKey) :=
  execWithValidAPIKey .updateAccountSQL keys fault account db

/-- `updateUserAccount`. -/
def updateUserAccount (keys : List (Option APIKey)) (fault : Option String) (account : Account)
    (username : String) (db : AccountDB) : Option String × AccountDB × List (Option APIKey) :=
  execWithValidAPIKey (fun account => .updateUserAccountSQL account username) keys fault account db

/-- `putAccount`: the upsert of the account's authority and assertion (the string it returns is
always empty). -/
def putAccount (fault : Option String) (account : Account) (db : AccountDB) :
    Option String × AccountDB :=
  db.execWith fault (.upsertAccountSQL account.authorityID account.assertion)

/-- `db.QueryRow(sql, args...).Scan(...)` into an `Account`: the first selected row. -/
def AccountDB.queryRow (db : AccountDB) (fault : Option String) (q : AccountQuery) :
    Except String Account :=
  match fault with
  | some err => .error err
  | none =>
    match db.select q with
    | .error err => .error err
    | .ok [] => .error "sql: no rows in result set"
    | .ok (row :: _) => scanAccount row

/-- `getAccountByID`. -/
def getAccountByID (db : AccountDB) (fault : Option String) (accountID : ℤ) :
    Except String Account :=
  db.queryRow fault (.getAccountByIDSQL accountID)

/-- `getUserAccountByID`. -/
def getUserAccountByID (db : AccountDB) (fault : Option String) (accountID : ℤ)
    (username : String) : Except String Account :=
  db.queryRow fault (.getUserAccountByIDSQL accountID username)

/-- `BuildAccountFromAuthorityID`. -/
def buildAccountFromAuthorityID (authorityID : String) : Account := ⟨0, authorityID, "", false, ""⟩

/-- `BuildAccountsFromAuthorityIDs`. -/
def buildAccountsFromAuthorityIDs (authorityIDs : List String) : List Account :=
  authorityIDs.map buildAccountFromAuthorityID

/-! ### What the account manager writes -/

/-- The table `createAccountTableSQL` creates: every column, `api_key NOT NULL` with no default,
no row, and a fresh sequence. -/
def AccountDB.created (userAccounts : List (String × ℤ)) : AccountDB :=
  ⟨true, some true, [], userAccounts, 1⟩

theorem exec_createAccountSQL_ok {db db' : AccountDB} {account : Account}
    (h : db.exec (.createAccountSQL account) = (none, db')) :
    db.missingColumn = none ∧ (∀ r ∈ db.rows, r.authorityID ≠ account.authorityID) ∧
      db' = { db with rows := db.rows ++ [{ account.toRow with id := db.serial }],
                      serial := db.serial + 1 } := by
  simp only [AccountDB.exec] at h
  split at h
  · cases h
  · rename_i hc
    split_ifs at h with hdup
    · cases h
    · cases h
      exact ⟨hc, by simpa using hdup, rfl⟩

/-- `updateUserAccount` never writes: its statement is not valid SQL, so every call returns an
error and leaves the table as it was. -/
theorem updateUserAccount_fails (keys : List (Option APIKey)) (fault : Option String)
    (account : Account) (username : String) (db : AccountDB) :
    (updateUserAccount keys fault account username db).1.isSome ∧
      (updateUserAccount keys fault account username db).2.1 = db := by
  unfold updateUserAccount execWithValidAPIKey
  rcases buildValidOrDefaultAPIKey keys account.apiKey with ⟨_ | apiKey, rest⟩
  · simp
  · rcases fault with _ | err <;> simp [AccountDB.execWith, AccountDB.exec]

/-- `getUserAccountByID` never returns an account: Postgres refuses its query. -/
theorem getUserAccountByID_fails (db : AccountDB) (fault : Option String) (accountID : ℤ)
    (username : String) : ∃ err, getUserAccountByID db fault accountID username = .error err := by
  unfold getUserAccountByID AccountDB.queryRow AccountDB.select
  rcases fault with _ | err
  · rcases db.missingColumn with _ | column <;> simp
  · simp

/-- `putAccount` cannot create an account: for an authority with no row, its insert leaves the
`NOT NULL` `api_key` without a value, on the table `CreateAccountTable` creates as after the
migration, so the call fails and writes no row. -/
theorem putAccount_new_authority_fails (fault : Option String) (account : Account) (db : AccountDB)
    (hc : db.apiKeyColumn = some true) (hnew : ∀ r ∈ db.rows, r.authorityID ≠ account.authorityID) :
    (putAccount fault account db).1 = some (fault.getD (AccountDB.notNullError "api_key")) ∧
      (putAccount fault account db).2.rows = db.rows := by
  rcases fault with _ | err
  · have hany : db.rows.any (·.authorityID == account.authorityID) = false := by
      simpa using hnew
    simp [putAccount, AccountDB.execWith, AccountDB.exec, hany, hc, AccountDB.drawSerial]
  · exact ⟨rfl, rfl⟩

end IdentityVault
