import IdentityVault.Http

/-! # Keypair generation handlers

`verifyKeypair`, `KeypairGenerateHandler` and `KeypairStatusHandler` of the service, over the
writer of `Http.lean`.  The datastore calls they make are parameters or are modelled from the
spec, since their code is not in the repository's files:

* `checkUserInAccount username authorityID` is the datastore's permission check, a parameter;
* `getKeypairStatus` reads the generation tracker, one `KeypairStatus` row per
  `(authorityID, keyName)`, and answers the key's row (a `QueryRow`); like every storage call,
  the read can fail.

`KeypairGenerateHandler` returns the background call it starts (`go datastore.GenerateKeypair`)
next to its answer, so that `Generation.lean` can run the call as a worker.  Neither handler
reads or writes the tracker other than through `getKeypairStatus`: the generate handler only
verifies the request (`keypairGenerateHandler_of_verified`), whatever the tracker holds.
-/

namespace IdentityVault

/-- `KeypairWithPrivateKey`: the JSON body of a create or generate request. -/
structure KeypairWithPrivateKey where
  id : ℤ
  authorityID : String
  privateKey : String
  keyName : String
deriving DecidableEq, Repr

/-- A request to a handler that reads a keypair body: what the JWT check and the JSON decoder
make of it. -/
structure KeypairRequest where
  auth : Option User
  body : Body KeypairWithPrivateKey
deriving DecidableEq, Repr

/-- A status poll: the JWT check's outcome and the route variables `authorityID`, `keyName`. -/
structure StatusRequest where
  auth : Option User
  authorityID : String
  keyName : String
deriving DecidableEq, Repr

/-- The call `go datastore.GenerateKeypair(authorityID, passphrase, keyName)`. -/
structure GenerateKeypairCall where
  authorityID : String
  passphrase : String
  keyName : String
deriving DecidableEq, Repr

/-- Modelled from the spec: the tracker's states (`Generating`, `Complete`, `Errored` with the
failure message); the datastore's status type is not under src/. -/
inductive GenerationStatus where
  | generating
  | complete
  | errored (msg : String)
deriving DecidableEq, Repr

/-- The status text a poll answers with (`ks.Status`). -/
def GenerationStatus.text : GenerationStatus → String
  | generating => "Generating"
  | complete => "Complete"
  | errored msg => msg

/-- Modelled from the spec: `datastore.KeypairStatus`, a row of the generation tracker keyed by
`(authorityID, keyName)`; the row's modification time is left out. -/
structure KeypairStatus where
  authorityID : String
  keyName : String
  status : GenerationStatus
deriving DecidableEq, Repr

/-- The row is the one of `(authorityID, keyName)`. -/
def KeypairStatus.isFor (authorityID keyName : String) (ks : KeypairStatus) : Bool :=
  ks.authorityID == authorityID && ks.keyName == keyName

/-- Modelled from the spec: `GetKeypairStatus(authorityID, keyName)` is not under src/; it is
read-only and answers the key's row, the driver's "no rows" error, or the error of a failing read
(`fault`, `none` for none). -/
def getKeypairStatus (tracker : List KeypairStatus) (fault : Option String)
    (authorityID keyName : String) : Except String KeypairStatus :=
  match fault with
  | some err => .error err
  | none =>
    match tracker.find? (KeypairStatus.isFor authorityID keyName) with
    | some ks => .ok ks
    | none => .error "sql: no rows in result set"

theorem getKeypairStatus_ok_iff {tracker : List KeypairStatus} {authorityID keyName : String} :
    (∃ ks, getKeypairStatus tracker none authorityID keyName = .ok ks) ↔
      tracker.any (KeypairStatus.isFor authorityID keyName) := by
  simp only [getKeypairStatus]
  cases h : tracker.find? (KeypairStatus.isFor authorityID keyName) with
  | none => simp_all [List.find?_eq_none]
  | some ks => simpa using ⟨ks, List.mem_of_find?_eq_some h, List.find?_some h⟩

/-- `w.WriteHeader(http.StatusBadRequest)` then a failure envelope: the handlers' way to refuse. -/
def badRequest (errorCode message : String) (w : ResponseWriter BooleanResponse) :
    ResponseWriter BooleanResponse :=
  formatBooleanResponse false errorCode "" message (w.writeHeader statusBadRequest)

section handlers

variable (checkUserInAccount : String → String → Bool)

/-- `verifyKeypair`: the keypair of the body, with its authority-id trimmed, when the user is
signed in, the body decodes, the authority-id is not blank and the user may act for it;
otherwise `none`, with the refusal written to `w`. -/
def verifyKeypair (r : KeypairRequest) (w : ResponseWriter BooleanResponse) :
    Option KeypairWithPrivateKey × ResponseWriter BooleanResponse :=
  let w := w.setHeader "Content-Type" "application/json; charset=UTF-8"
  match r.auth with
  | none => (none, formatBooleanResponse false "error-auth" "" "" w)
  | some authUser =>
    match r.body with
    | .nil => (none, badRequest "error-nil-data" "Uninitialized POST data" w)
    | .eof => (none, badRequest "error-keypair-data" "No keypair data supplied" w)
    | .invalid err => (none, badRequest "error-keypair-json" err w)
    | .json keypairWithKey =>
      let keypairWithKey := { keypairWithKey with
        authorityID := trimSpace keypairWithKey.authorityID }
      if keypairWithKey.authorityID.length = 0 then
        (none, badRequest "error-keypair-json" "The authority-id is mandatory" w)
      else if !checkUserInAccount authUser.username keypairWithKey.authorityID then
        (none, badRequest "error-auth"
          "Your user does not have permissions for the Signing Authority" w)
      else (some keypairWithKey, w)

/-- The URL `KeypairGenerateHandler` hands back for polling. -/
def statusURL (authorityID keyName : String) : String :=
  "/v1/keypairs/status/" ++ authorityID ++ "/" ++ keyName

/-- `KeypairGenerateHandler`: the background call it starts, and its answer. -/
def keypairGenerateHandler (r : KeypairRequest) :
    Option GenerateKeypairCall × ResponseWriter BooleanResponse :=
  match verifyKeypair checkUserInAccount r ResponseWriter.empty with
  | (none, w) => (none, w)
  | (some keypair, w) =>
    let url := statusURL keypair.authorityID keypair.keyName
    let w := (w.writeHeader statusAccepted).setHeader "Location" url
    (some ⟨keypair.authorityID, "", keypair.keyName⟩, formatBooleanResponse true "" "" url w)

/-- `KeypairStatusHandler`: the answer to a poll, read from the tracker with the read's `fault`. -/
def keypairStatusHandler (tracker : List KeypairStatus) (fault : Option String) (r : StatusRequest) :
    ResponseWriter BooleanResponse :=
  match r.auth with
  | none => formatBooleanResponse false "error-auth" "" "" ResponseWriter.empty
  | some authUser =>
    if !checkUserInAccount authUser.username r.authorityID then
      badRequest "error-auth" "Your user does not have permissions for the Signing Authority"
        ResponseWriter.empty
    else
      match getKeypairStatus tracker fault r.authorityID r.keyName with
      | .error _ => badRequest "error-keypair-json" "Cannot find the status of the keypair"
          ResponseWriter.empty
      | .ok ks => formatBooleanResponse true "" "" ks.status.text ResponseWriter.empty

/-! ### What the handlers answer -/

/-- The answer `KeypairGenerateHandler` sends for a verified request: `202` with the polling URL
in the message.  `Location` is set after `WriteHeader`, so it is not among the headers sent. -/
def acceptedAnswer (url : String) : ResponseWriter BooleanResponse :=
  formatBooleanResponse true "" "" url
    (((ResponseWriter.empty.setHeader "Content-Type" "application/json; charset=UTF-8").writeHeader
      statusAccepted).setHeader "Location" url)

@[simp] theorem acceptedAnswer_status (url : String) :
    (acceptedAnswer url).status = some statusAccepted := rfl

@[simp] theorem acceptedAnswer_body (url : String) :
    (acceptedAnswer url).body = [⟨true, "", "", url⟩] := rfl

@[simp] theorem acceptedAnswer_header (url : String) :
    (acceptedAnswer url).header =
      [("Location", url), ("Content-Type", "application/json; charset=UTF-8")] := rfl

@[simp] theorem acceptedAnswer_sentHeader (url : String) :
    (acceptedAnswer url).sentHeader = [("Content-Type", "application/json; charset=UTF-8")] := rfl

/-- `verifyKeypair` either passes, having only set the content type, or refuses with one
failure envelope. -/
theorem verifyKeypair_spec (r : KeypairRequest) (w : ResponseWriter BooleanResponse) :
    (∃ k, verifyKeypair checkUserInAccount r w =
        (some k, w.setHeader "Content-Type" "application/json; charset=UTF-8")) ∨
      ((verifyKeypair checkUserInAccount r w).1 = none ∧
        ∃ b : BooleanResponse, b.success = false ∧
          (verifyKeypair checkUserInAccount r w).2.body = w.body ++ [b]) := by
  obtain ⟨_ | u, _ | _ | e | k⟩ := r <;> simp [verifyKeypair, badRequest, formatBooleanResponse]
  split_ifs <;> simp

/-- What `verifyKeypair` passes on: the body's keypair, for a signed-in user the account check
permits, with its authority-id trimmed, non-empty and with no white space left at either end. -/
theorem verifyKeypair_ok {r : KeypairRequest} {w w' : ResponseWriter BooleanResponse}
    {k : KeypairWithPrivateKey} (h : verifyKeypair checkUserInAccount r w = (some k, w')) :
    ∃ u body, r.auth = some u ∧ r.body = .json body ∧
      k = { body with authorityID := trimSpace body.authorityID } ∧ k.authorityID.length ≠ 0 ∧
      checkUserInAccount u.username k.authorityID = true ∧
      (∀ c ∈ k.authorityID.data.head?, isSpace c = false) ∧
      ∀ c ∈ k.authorityID.data.getLast?, isSpace c = false := by
  obtain ⟨_ | u, _ | _ | e | body⟩ := r <;>
    simp [verifyKeypair, badRequest, formatBooleanResponse] at h
  split_ifs at h with h0 hck
  · simp at h
  · simp at h
  simp only [Prod.mk.injEq, Option.some.injEq] at h
  obtain ⟨rfl, -⟩ := h
  exact ⟨u, body, rfl, rfl, rfl, h0, by simpa using hck, trimSpace_ends _⟩

theorem keypairGenerateHandler_of_verified {r : KeypairRequest} {k : KeypairWithPrivateKey}
    {w : ResponseWriter BooleanResponse} (h : verifyKeypair checkUserInAccount r ResponseWriter.empty = (some k, w)) :
    keypairGenerateHandler checkUserInAccount r =
      (some ⟨k.authorityID, "", k.keyName⟩, acceptedAnswer (statusURL k.authorityID k.keyName)) := by
  obtain ⟨k', hk'⟩ | ⟨hn, -⟩ := verifyKeypair_spec checkUserInAccount r ResponseWriter.empty
  · rw [hk', Prod.mk.injEq, Option.some.injEq] at h
    obtain ⟨rfl, -⟩ := h
    simp only [keypairGenerateHandler, hk', acceptedAnswer]
  · simp [h] at hn

theorem keypairGenerateHandler_call {r : KeypairRequest} {call : GenerateKeypairCall}
    (h : (keypairGenerateHandler checkUserInAccount r).1 = some call) :
    ∃ k w, verifyKeypair checkUserInAccount r ResponseWriter.empty = (some k, w) ∧
      call = ⟨k.authorityID, "", k.keyName⟩ := by
  rcases hv : verifyKeypair checkUserInAccount r ResponseWriter.empty with ⟨_ | k, w⟩ <;>
    simp [keypairGenerateHandler, hv] at h
  exact ⟨k, w, rfl, h.symm⟩

theorem keypairStatusHandler_of_row {tracker : List KeypairStatus} {r : StatusRequest} {u : User}
    (hu : r.auth = some u) (hp : checkUserInAccount u.username r.authorityID = true)
    (hrow : tracker.any (KeypairStatus.isFor r.authorityID r.keyName)) :
    ∃ ks, getKeypairStatus tracker none r.authorityID r.keyName = .ok ks ∧
      keypairStatusHandler checkUserInAccount tracker none r =
        formatBooleanResponse true "" "" ks.status.text ResponseWriter.empty := by
  obtain ⟨ks, hks⟩ := getKeypairStatus_ok_iff.mpr hrow
  exact ⟨ks, hks, by simp [keypairStatusHandler, hu, hp, hks]⟩

end handlers

end IdentityVault
