import IdentityVault.Keypair
import IdentityVault.Strconv

/-! # Registry and signing-log handlers

The handlers that create, enable, disable, list and attach assertions to keypairs, and the one
that lists the signing log.  What they call outside the service is a parameter: the keypair
store's `ImportSigningKey`, the datastore's `PutKeypair`, `UpdateAllowedKeypairActive`,
`UpdateKeypairAssertion`, `ListAllowedKeypairs`, `ListAllowedKeypairStatus` and
`ListSigningLog`, base64 decoding and the `asserts` decoder.  Each handler returns, next to its
answer, the registry call it made, if any, so that what reaches the registry can be stated.

* `keypairActiveHandler active` is `KeypairDisableHandler` (`false`) and
  `KeypairEnableHandler` (`true`): it acts on the id `strconv.Atoi` reads from the route
  (`keypairActiveHandler_call_iff`), so every `int64` id written in decimal reaches the
  registry (`keypairActiveHandler_numeral`).
* An assertion of a type other than `account-key` is refused with a message naming only the type
  required (`keypairAssertionHandler_wrong_type`).
* Each of these handlers answers with one envelope, a success exactly when the registry accepted
  the change (`keypairCreateHandler_answer` and its siblings).
* A keypair list holds the allowed keypairs of the route's account (`keypairListHandler_scoped`);
  the signing log is listed from the id `Atoi` reads, or from `MaxFromID` (`fromIDParam`).
-/

namespace IdentityVault

/-- Modelled from the spec: `datastore.Keypair` is not under src/; the fields the handlers
set (its active flag and key name are left out). -/
structure Keypair where
  id : ℤ
  authorityID : String
  keyID : String
  sealedKey : String
  assertion : String
deriving DecidableEq, Repr

/-- A decoded assertion, as the `asserts` library hands it over: its type name and headers. -/
structure Assertion where
  typeName : String
  headers : List (String × String)
deriving DecidableEq, Repr

/-- `assertion.HeaderString(name)`: the header's value, `""` when it is absent. -/
def Assertion.headerString (a : Assertion) (name : String) : String :=
  (a.headers.lookup name).getD ""

/-- `asserts.AccountKeyType.Name`. -/
def accountKeyType : String := "account-key"

/-- Modelled from the spec: the body of an assertion upload (`AssertionRequest`), whose type
is not under src/. -/
structure AssertionRequest where
  id : ℤ
  assertion : String
deriving DecidableEq, Repr

/-- A request to `KeypairAssertionHandler`. -/
structure AssertionUpload where
  auth : Option User
  body : Body AssertionRequest
deriving DecidableEq, Repr

/-- A request to a handler routed by a keypair `id` or an `account_code`: the JWT check's
outcome and the route variable. -/
structure RouteRequest where
  auth : Option User
  var : String
deriving DecidableEq, Repr

/-- Modelled from the spec: the answer of `KeypairListHandler`, written by
`formatKeypairsResponse`; neither is under src/, and the fields follow `KeypairStatusResponse`'s.
`none` is a nil list. -/
structure KeypairsResponse where
  success : Bool
  errorCode : String
  errorSubcode : String
  message : String
  keypairs : Option (List Keypair)
deriving DecidableEq, Repr

/-- `KeypairStatusResponse`. -/
structure KeypairStatusResponse where
  success : Bool
  errorCode : String
  errorSubcode : String
  message : String
  status : Option (List KeypairStatus)
deriving DecidableEq, Repr

/-- The JSON header every registry handler sets first. -/
def jsonContentType (w : ResponseWriter β) : ResponseWriter β :=
  w.setHeader "Content-Type" "application/json; charset=UTF-8"

@[simp] theorem jsonContentType_status (w : ResponseWriter β) :
    (jsonContentType w).status = w.status := rfl

@[simp] theorem jsonContentType_body (w : ResponseWriter β) :
    (jsonContentType w).body = w.body := rfl

section handlers

variable (checkUserInAccount : String → String → Bool)

/-! ### Create -/

section create

variable (importSigningKey : String → String → Except String (String × String))
  (putKeypair : Keypair → String × Option String)

/-- `KeypairCreateHandler`: the keypair it asks the registry to store, and its answer.
`importSigningKey` returns the key's public id and its sealed form. -/
def keypairCreateHandler (r : KeypairRequest) : Option Keypair × ResponseWriter BooleanResponse :=
  match verifyKeypair checkUserInAccount r ResponseWriter.empty with
  | (none, w) => (none, w)
  | (some keypairWithKey, w) =>
    match importSigningKey keypairWithKey.authorityID keypairWithKey.privateKey with
    | .error err => (none, badRequest "error-keypair-store" err w)
    | .ok (keyID, sealedKey) =>
      let keypair : Keypair := ⟨0, keypairWithKey.authorityID, keyID, sealedKey, ""⟩
      match putKeypair keypair with
      | (errorCode, some err) => (some keypair, badRequest errorCode err w)
      | (_, none) => (some keypair, formatBooleanResponse true "" "" "" (w.writeHeader statusOK))

theorem keypairCreateHandler_answer (r : KeypairRequest) :
    ∃ b, (keypairCreateHandler checkUserInAccount importSigningKey putKeypair r).2.body = [b] ∧
      (b.success = true ↔ ∃ kp,
        (keypairCreateHandler checkUserInAccount importSigningKey putKeypair r).1 = some kp ∧
          (putKeypair kp).2 = none) := by
  obtain ⟨k, hk⟩ | ⟨hn, b, hb, hbody⟩ := verifyKeypair_spec checkUserInAccount r ResponseWriter.empty
  · simp only [keypairCreateHandler, hk]
    rcases importSigningKey k.authorityID k.privateKey with err | ⟨keyID, sealedKey⟩
    · simp [badRequest, formatBooleanResponse]
    · rcases hp : putKeypair ⟨0, k.authorityID, keyID, sealedKey, ""⟩ with ⟨code, _ | err⟩ <;>
        simp [hp, badRequest, formatBooleanResponse]
  · rcases hv : verifyKeypair checkUserInAccount r ResponseWriter.empty with ⟨_ | k, w⟩
    · rw [hv] at hbody
      exact ⟨b, by simpa [keypairCreateHandler, hv] using hbody, by simp [keypairCreateHandler, hv, hb]⟩
    · simp [hv] at hn

end create

/-! ### Enable and disable -/

section active

variable (updateAllowedKeypairActive : ℤ → Bool → User → Option String)

/-- `KeypairDisableHandler` (`active = false`) and `KeypairEnableHandler` (`active = true`):
the registry call it makes, and its answer. -/
def keypairActiveHandler (active : Bool) (r : RouteRequest) :
    Option (ℤ × Bool × User) × ResponseWriter BooleanResponse :=
  let w := jsonContentType ResponseWriter.empty
  match r.auth with
  | none => (none, formatBooleanResponse false "error-auth" "" "" w)
  | some authUser =>
    match atoi r.var with
    | none => (none, formatBooleanResponse false "error-invalid-key" "" r.var (w.writeHeader 404))
    | some keypairID =>
      match updateAllowedKeypairActive keypairID active authUser with
      | some err => (some (keypairID, active, authUser), badRequest "error-keypair-update" err w)
      | none => (some (keypairID, active, authUser), formatBooleanResponse true "" "" "" w)

/-- `KeypairDisableHandler`. -/
def keypairDisableHandler : RouteRequest → Option (ℤ × Bool × User) × ResponseWriter BooleanResponse :=
  keypairActiveHandler updateAllowedKeypairActive false

/-- `KeypairEnableHandler`. -/
def keypairEnableHandler : RouteRequest → Option (ℤ × Bool × User) × ResponseWriter BooleanResponse :=
  keypairActiveHandler updateAllowedKeypairActive true

theorem keypairActiveHandler_call_iff {active : Bool} {r : RouteRequest} {id : ℤ} {a : Bool}
    {u : User} :
    (keypairActiveHandler updateAllowedKeypairActive active r).1 = some (id, a, u) ↔
      r.auth = some u ∧ atoi r.var = some id ∧ a = active := by
  obtain ⟨_ | v, var⟩ := r
  · simp [keypairActiveHandler]
  · simp only [keypairActiveHandler]
    rcases atoi var with _ | n
    · simp
    · rcases hu : updateAllowedKeypairActive n active v with _ | err <;> simp [hu] <;> tauto

/-- Every `int64` id, written in decimal, reaches the registry unchanged. -/
theorem keypairActiveHandler_numeral {n : ℤ} (hn : InInt64 n) (active : Bool) (u : User) :
    (keypairActiveHandler updateAllowedKeypairActive active ⟨some u, toString n⟩).1 =
      some (n, active, u) :=
  keypairActiveHandler_call_iff updateAllowedKeypairActive |>.mpr ⟨rfl, atoi_toString hn, rfl⟩

theorem keypairActiveHandler_numeral_negative :
    InInt64 (-7) ∧
      (keypairActiveHandler (fun _ _ _ => none) true ⟨some ⟨"admin"⟩, toString (-7 : ℤ)⟩).1 =
        some (-7, true, ⟨"admin"⟩) :=
  ⟨by decide, keypairActiveHandler_numeral (fun _ _ _ => none) (by decide) true ⟨"admin"⟩⟩

theorem keypairActiveHandler_answer (active : Bool) (r : RouteRequest) :
    ∃ b, (keypairActiveHandler updateAllowedKeypairActive active r).2.body = [b] ∧
      (b.success = true ↔ ∃ id u,
        (keypairActiveHandler updateAllowedKeypairActive active r).1 = some (id, active, u) ∧
          updateAllowedKeypairActive id active u = none) := by
  obtain ⟨_ | v, var⟩ := r
  · simp [keypairActiveHandler, formatBooleanResponse]
  · simp only [keypairActiveHandler]
    rcases atoi var with _ | n
    · simp [formatBooleanResponse]
    · rcases hu : updateAllowedKeypairActive n active v with _ | err <;>
        simp [hu, badRequest, formatBooleanResponse]
      exact ⟨n, v, ⟨rfl, rfl⟩, hu⟩

end active

/-! ### Assertions -/

section assertion

variable (decodeBase64 : String → Except String String)
  (decodeAssertion : String → Except String Assertion)
  (updateKeypairAssertion : Keypair → User → String × Option String)

/-- The keypair a valid upload asks the registry to update: the request's id, the authority and
key-id from the assertion's headers, and the decoded assertion's text. -/
def assertedKeypair (id : ℤ) (decoded : String) (a : Assertion) : Keypair :=
  ⟨id, a.headerString "account-id", a.headerString "public-key-sha3-384", "", decoded⟩

/-- `KeypairAssertionHandler`: the keypair and user it passes to `UpdateKeypairAssertion`, and
its answer. -/
def keypairAssertionHandler (r : AssertionUpload) :
    Option (Keypair × User) × ResponseWriter BooleanResponse :=
  let w := jsonContentType ResponseWriter.empty
  match r.auth with
  | none => (none, formatBooleanResponse false "error-auth" "" "" w)
  | some authUser =>
    match r.body with
    | .nil => (none, badRequest "error-nil-data" "Uninitialized POST data" w)
    | .eof => (none, badRequest "error-assertion-data" "No assertion data supplied" w)
    | .invalid err => (none, badRequest "error-assertion-json" err w)
    | .json assertionRequest =>
      if assertionRequest.id = 0 then
        (none, badRequest "invalid-keypair" "ID of keypair not provided" w)
      else
        match decodeBase64 assertionRequest.assertion with
        | .error err => (none, badRequest "decode-assertion" err w)
        | .ok decodedAssertion =>
          match decodeAssertion decodedAssertion with
          | .error err => (none, badRequest "decode-assertion" err w)
          | .ok assertion =>
            if assertion.typeName ≠ accountKeyType then
              (none, badRequest "invalid-assertion"
                ("An assertion of type \x27" ++ accountKeyType ++ "\x27 is required") w)
            else
              let keypair := assertedKeypair assertionRequest.id decodedAssertion assertion
              match updateKeypairAssertion keypair authUser with
              | (errorCode, some err) => (some (keypair, authUser), badRequest errorCode err w)
              | (_, none) => (some (keypair, authUser), formatBooleanResponse true "" "" "" w)

theorem keypairAssertionHandler_answer (r : AssertionUpload) :
    ∃ b, (keypairAssertionHandler decodeBase64 decodeAssertion updateKeypairAssertion r).2.body =
        [b] ∧
      (b.success = true ↔ ∃ kp u,
        (keypairAssertionHandler decodeBase64 decodeAssertion updateKeypairAssertion r).1 =
          some (kp, u) ∧ (updateKeypairAssertion kp u).2 = none) := by
  obtain ⟨_ | v, _ | _ | e | req⟩ := r <;> simp [keypairAssertionHandler, badRequest, formatBooleanResponse]
  split_ifs with h0
  · simp
  rcases hd : decodeBase64 req.assertion with e | decoded
  · simp [hd]
  rcases ha : decodeAssertion decoded with e | a
  · simp [hd, ha]
  by_cases ht : a.typeName = accountKeyType
  · rcases hu : updateKeypairAssertion (assertedKeypair req.id decoded a) v with ⟨code, _ | err⟩ <;>
      simp [hd, ha, ht, hu]
    exact ⟨_, _, ⟨rfl, rfl⟩, by simp [hu]⟩
  · simp [hd, ha, ht]

/-- An assertion of any type other than `account-key` is refused before the registry is asked,
with a message that names the type required and not the type submitted. -/
theorem keypairAssertionHandler_wrong_type {r : AssertionUpload} {u : User}
    {req : AssertionRequest} {decoded : String} {a : Assertion} (hu : r.auth = some u)
    (hb : r.body = .json req) (h0 : req.id ≠ 0) (hd : decodeBase64 req.assertion = .ok decoded)
    (ha : decodeAssertion decoded = .ok a) (ht : a.typeName ≠ accountKeyType) :
    keypairAssertionHandler decodeBase64 decodeAssertion updateKeypairAssertion r =
      (none, badRequest "invalid-assertion" "An assertion of type \x27account-key\x27 is required"
        (jsonContentType ResponseWriter.empty)) := by
  simp [keypairAssertionHandler, hu, hb, h0, hd, ha, ht]
  rfl

end assertion

/-! ### Lists -/

/-- Modelled from the spec: `formatKeypairsResponse` is not under src/; it writes its arguments
as one `KeypairsResponse`. -/
def formatKeypairsResponse (success : Bool) (errorCode errorSubcode message : String)
    (keypairs : Option (List Keypair)) (w : ResponseWriter KeypairsResponse) :
    ResponseWriter KeypairsResponse :=
  w.write ⟨success, errorCode, errorSubcode, message, keypairs⟩

/-- `KeypairListHandler`: the allowed keypairs of the account named by the route. -/
def keypairListHandler (listAllowedKeypairs : User → Except String (List Keypair))
    (r : RouteRequest) : ResponseWriter KeypairsResponse :=
  let w := jsonContentType ResponseWriter.empty
  match r.auth with
  | none => formatKeypairsResponse false "error-auth" "" "" none w
  | some authUser =>
    match listAllowedKeypairs authUser with
    | .error err => formatKeypairsResponse false "error-fetch-keypairs" "" err none (w.writeHeader 500)
    | .ok userKeypairs =>
      formatKeypairsResponse true "" "" ""
        (some (userKeypairs.filter fun k => k.authorityID == r.var)) (w.writeHeader statusOK)

/-- A list in the answer of `KeypairListHandler` holds exactly the keypairs the registry allows the
signed-in user that belong to the account in the route. -/
theorem keypairListHandler_scoped {listAllowedKeypairs : User → Except String (List Keypair)}
    {r : RouteRequest} {resp : KeypairsResponse} {kps : List Keypair}
    (h : resp ∈ (keypairListHandler listAllowedKeypairs r).body) (hk : resp.keypairs = some kps) :
    ∃ u ks, r.auth = some u ∧ listAllowedKeypairs u = .ok ks ∧
      ∀ k, k ∈ kps ↔ k ∈ ks ∧ k.authorityID = r.var := by
  obtain ⟨_ | u, var⟩ := r
  · simp [keypairListHandler, formatKeypairsResponse] at h
    simp [h] at hk
  · rcases hl : listAllowedKeypairs u with err | ks <;>
      simp [keypairListHandler, formatKeypairsResponse, hl] at h <;> subst h <;> simp at hk
    subst hk
    exact ⟨u, ks, rfl, hl, by simp⟩

/-- `KeypairStatusProgressHandler`: a boolean envelope on failure, the statuses on success. -/
def keypairStatusProgressHandler
    (listAllowedKeypairStatus : User → Except String (List KeypairStatus)) (auth : Option User) :
    ResponseWriter (BooleanResponse ⊕ KeypairStatusResponse) :=
  match auth with
  | none => ResponseWriter.empty.write (.inl ⟨false, "error-auth", "", ""⟩)
  | some authUser =>
    match listAllowedKeypairStatus authUser with
    | .error _ => (ResponseWriter.empty.writeHeader statusBadRequest).write
        (.inl ⟨false, "error-keypair-json", "", "Cannot find the status of the keypairs"⟩)
    | .ok ks => ResponseWriter.empty.write (.inr ⟨true, "", "", "", some ks⟩)

end handlers

/-! ### Signing log -/

/-- The answer of `SigningLogHandler` (`SigningLogResponse`), over log entries of type `α`
(`SigningLog` is not under src/); `none` is a nil list. -/
structure SigningLogResponse (α : Type) where
  success : Bool
  errorCode : String
  errorSubcode : String
  message : String
  signingLog : Option (List α)
deriving DecidableEq, Repr

/-- Modelled from the spec: `formatSigningLogResponse` is not under src/; it writes its
arguments as one `SigningLogResponse`. -/
def formatSigningLogResponse {α : Type} (success : Bool) (errorCode errorSubcode message : String)
    (logs : Option (List α)) (w : ResponseWriter (SigningLogResponse α)) :
    ResponseWriter (SigningLogResponse α) :=
  w.write ⟨success, errorCode, errorSubcode, message, logs⟩

/-- The `fromID` query parameter as `SigningLogHandler` reads it: `maxFromID` (`MaxFromID`, a
constant not under src/) when it is empty or not a number. -/
def fromIDParam (maxFromID : ℤ) (fromDateParam : String) : ℤ :=
  if fromDateParam.length = 0 then maxFromID
  else match atoi fromDateParam with
    | some fromID => fromID
    | none => maxFromID

/-- `SigningLogHandler`: the id it asks `ListSigningLog` for, and its answer. -/
def signingLogHandler {α : Type} (listSigningLog : ℤ → Except String (List α)) (maxFromID : ℤ)
    (fromDateParam : String) : ℤ × ResponseWriter (SigningLogResponse α) :=
  let fromID := fromIDParam maxFromID fromDateParam
  let w := jsonContentType ResponseWriter.empty
  match listSigningLog fromID with
  | .error err =>
    (fromID, formatSigningLogResponse false "error-fetch-signinglog" "" err none (w.writeHeader 500))
  | .ok logs => (fromID, formatSigningLogResponse true "" "" "" (some logs) (w.writeHeader statusOK))

end IdentityVault
