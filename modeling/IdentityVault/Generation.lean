import Mathlib.Data.List.Nodup
import IdentityVault.Keypair

/-! # Background key generation

The generation subsystem as a transition system.  A state `Sys` holds the tracker (one
`keypairstatus` row per `(authorityID, keyName)`), every `GenerateKeypair` worker started so far,
and the answers sent.  An `Action` is one of

* `generate r`: `KeypairGenerateHandler` serves `r`; when `verifyKeypair` passes it starts a
  worker (`go datastore.GenerateKeypair`) and answers `202 Accepted`;
* `poll r fault`: `KeypairStatusHandler` serves `r`, reading the tracker with the read's `fault`;
* `work i err`: worker `i` takes its next step; `err` is the error key generation or the
  registry's `Put` returns (`none` for nil), read at the worker's last step.

Every list of actions is a run, so every interleaving of requests and worker steps is covered.
A handler is one action: each touches shared state at most once (the spawn, or the tracker
read), so running it atomically loses no interleaving.

The worker is modelled from the spec, its code not being under src/: its first step sets its
key's row to `Generating`, creating it when the key has none, its second moves that row to
`Complete` or `Errored`.  The tracker keeps one row per key along every run (`run_keys_nodup`).

Main results: the handler accepts every verified request in every state and starts a worker
for it, whatever the tracker holds (`generate_always_accepted`), so a second job for a key whose
first job is still generating is accepted (`generate_accepted_while_generating`); the tracker
never loses a row (`run_keys_extend`), so once a worker has taken its first step every later poll
whose read does not fail finds the row (`poll_finds_row_after_first_step`), while a poll between
the `202` and that step answers "Cannot find the status of the keypair"
(`poll_after_accepted_not_found`).

The answers and the jobs never drift apart: the `202 Accepted` answers sent carry, in order,
exactly the polling URLs of the workers started (`run_accepted_match_workers`), refusals and poll
answers going out as `200` or `400`.  And every worker and row is for an authority-id
`verifyKeypair` passed (`run_authoritiesAccepted`).
-/

namespace IdentityVault

/-! ### The worker -/

/-- Where a `GenerateKeypair` worker is in its run. -/
inductive WorkerPhase where
  /-- Started by `go`, not yet run. -/
  | spawned
  /-- Has set its key's row to `Generating`. -/
  | generating
  /-- Has given its key's row a final status. -/
  | finished
deriving DecidableEq, Repr

/-- A worker: the call that started it and its phase. -/
structure Worker where
  call : GenerateKeypairCall
  phase : WorkerPhase
deriving DecidableEq, Repr

/-- The worker has not finished. -/
def Worker.running (w : Worker) : Bool :=
  match w.phase with
  | .finished => false
  | _ => true

/-- Modelled from the spec: `UpdateKeypairStatus`, which sets the status of the row of
`(authorityID, keyName)`. -/
def updateKeypairStatus (tracker : List KeypairStatus) (authorityID keyName : String)
    (st : GenerationStatus) : List KeypairStatus :=
  tracker.map fun ks => if ks.isFor authorityID keyName then { ks with status := st } else ks

/-- Modelled from the spec: `CreateKeypairStatus`, run as a job starts.  The row of
`(authorityID, keyName)` becomes `Generating`, a new row when the key has none: the tracker
keeps one row per key, so a job started under a key name used before (a re-issued request, or a
second job while the first runs) starts that key's row again. -/
def createKeypairStatus (tracker : List KeypairStatus) (authorityID keyName : String) :
    List KeypairStatus :=
  if tracker.any (KeypairStatus.isFor authorityID keyName) then
    updateKeypairStatus tracker authorityID keyName .generating
  else tracker ++ [⟨authorityID, keyName, .generating⟩]

/-- The key of a tracker row. -/
def KeypairStatus.key (ks : KeypairStatus) : String × String := (ks.authorityID, ks.keyName)

@[simp] theorem map_key_updateKeypairStatus (tracker : List KeypairStatus)
    (authorityID keyName : String) (st : GenerationStatus) :
    (updateKeypairStatus tracker authorityID keyName st).map KeypairStatus.key =
      tracker.map KeypairStatus.key := by
  simp only [updateKeypairStatus, List.map_map]
  exact List.map_congr_left fun ks _ => by simp only [Function.comp_apply]; split_ifs <;> rfl

theorem any_isFor_iff_mem_keys {tracker : List KeypairStatus} {authorityID keyName : String} :
    tracker.any (KeypairStatus.isFor authorityID keyName) ↔
      (authorityID, keyName) ∈ tracker.map KeypairStatus.key := by
  simp [KeypairStatus.isFor, KeypairStatus.key, and_comm]

theorem map_key_createKeypairStatus (tracker : List KeypairStatus) (authorityID keyName : String) :
    (createKeypairStatus tracker authorityID keyName).map KeypairStatus.key =
      if (authorityID, keyName) ∈ tracker.map KeypairStatus.key then tracker.map KeypairStatus.key
      else tracker.map KeypairStatus.key ++ [(authorityID, keyName)] := by
  unfold createKeypairStatus
  by_cases h : (authorityID, keyName) ∈ tracker.map KeypairStatus.key
  · rw [if_pos (any_isFor_iff_mem_keys.mpr h), if_pos h, map_key_updateKeypairStatus]
  · rw [if_neg (mt any_isFor_iff_mem_keys.mp h), if_neg h]
    simp [KeypairStatus.key]

/-- Modelled from the spec: one step of `datastore.GenerateKeypair`, which is not under src/.
The first step sets the job's row to `Generating` (`CreateKeypairStatus`); the second moves it to
`Complete`, or to `Errored` with the failure message. -/
def generateKeypairStep (err : Option String) (tracker : List KeypairStatus)
    (w : Worker) : List KeypairStatus × Worker :=
  match w.phase with
  | .spawned =>
    (createKeypairStatus tracker w.call.authorityID w.call.keyName, { w with phase := .generating })
  | .generating =>
    let st := match err with
      | none => .complete
      | some msg => .errored msg
    (updateKeypairStatus tracker w.call.authorityID w.call.keyName st,
      { w with phase := .finished })
  | .finished => (tracker, w)

/-! ### The system -/

/-- The generation subsystem: tracker rows, every worker started (in start order), answers sent. -/
structure Sys where
  tracker : List KeypairStatus
  workers : List Worker
  sent : List (ResponseWriter BooleanResponse)
deriving DecidableEq, Repr

/-- Before any request. -/
def Sys.init : Sys := ⟨[], [], []⟩

/-- One event of a run. -/
inductive Action where
  | generate (r : KeypairRequest)
  | poll (r : StatusRequest) (fault : Option String)
  | work (i : ℕ) (err : Option String)
deriving DecidableEq, Repr

section system

variable (checkUserInAccount : String → String → Bool)

/-- One step of the subsystem. A `work` step of a worker that does not exist changes nothing. -/
def step (s : Sys) : Action → Sys
  | .generate r =>
    let answer := keypairGenerateHandler checkUserInAccount r
    { s with workers := s.workers ++ (answer.1.map (⟨·, .spawned⟩)).toList, sent := s.sent ++ [answer.2] }
  | .poll r fault =>
    { s with sent := s.sent ++ [keypairStatusHandler checkUserInAccount s.tracker fault r] }
  | .work i err =>
    match s.workers[i]? with
    | none => s
    | some w =>
      let next := generateKeypairStep err s.tracker w
      { s with tracker := next.1, workers := s.workers.set i next.2 }

/-- A run: the actions taken one after another. -/
def run (s : Sys) (acts : List Action) : Sys := acts.foldl (step checkUserInAccount) s

@[simp] theorem run_nil (s : Sys) : run checkUserInAccount s [] = s := rfl

@[simp] theorem run_cons (s : Sys) (a : Action) (acts : List Action) :
    run checkUserInAccount s (a :: acts) = run checkUserInAccount (step checkUserInAccount s a) acts :=
  rfl

/-- The workers for `(authorityID, keyName)` that have not finished. -/
def runningFor (s : Sys) (authorityID keyName : String) : ℕ :=
  (s.workers.filter fun w =>
    w.running && w.call.authorityID == authorityID && w.call.keyName == keyName).length

theorem list_set_eq_self {α : Type} {l : List α} {i : ℕ} {a : α} (h : l[i]? = some a) :
    l.set i a = l :=
  List.ext_getElem? fun j => by
    rw [List.getElem?_set]
    split_ifs with hij hlt
    · exact hij ▸ h.symm
    · exact absurd (List.getElem?_eq_some_iff.mp h).1 hlt
    · rfl

/-- What a worker step does: nothing, when the worker does not exist or has finished; its first
step, which sets its key's row to `Generating`; or its last step, which gives that row a final
status. -/
theorem step_work_cases (s : Sys) (i : ℕ) (err : Option String) :
    step checkUserInAccount s (.work i err) = s ∨
    ∃ w, s.workers[i]? = some w ∧
      (w.phase = .spawned ∧ step checkUserInAccount s (.work i err) =
          { s with tracker := createKeypairStatus s.tracker w.call.authorityID w.call.keyName,
                   workers := s.workers.set i { w with phase := .generating } } ∨
        ∃ st, w.phase = .generating ∧ st ≠ .generating ∧
          step checkUserInAccount s (.work i err) =
          { s with tracker := updateKeypairStatus s.tracker w.call.authorityID w.call.keyName st,
                   workers := s.workers.set i { w with phase := .finished } }) := by
  simp only [step]
  split
  · exact .inl rfl
  · rename_i w hi
    simp only [generateKeypairStep]
    split
    · exact .inr ⟨w, hi, .inl ⟨‹_›, rfl⟩⟩
    · exact .inr ⟨w, hi, .inr ⟨_, ‹_›, by cases err <;> simp, rfl⟩⟩
    · exact .inl (by simp [list_set_eq_self hi])

theorem step_keys_nodup {s : Sys} (h : (s.tracker.map KeypairStatus.key).Nodup) (a : Action) :
    ((step checkUserInAccount s a).tracker.map KeypairStatus.key).Nodup := by
  cases a with
  | generate r => exact h
  | poll r fault => exact h
  | work i err =>
    rcases step_work_cases checkUserInAccount s i err with he | ⟨w, -, ⟨-, he⟩ | ⟨st, -, -, he⟩⟩ <;>
      rw [he]
    · exact h
    · simp only [map_key_createKeypairStatus]
      split_ifs with hk
      · exact h
      · exact h.append (List.nodup_singleton _) (List.disjoint_singleton.mpr hk)
    · simpa using h

/-- Along every run from the initial state the tracker holds one row per `(authorityID, keyName)`,
as the spec keys it. -/
theorem run_keys_nodup (acts : List Action) :
    ((run checkUserInAccount Sys.init acts).tracker.map KeypairStatus.key).Nodup := by
  suffices ∀ s : Sys, (s.tracker.map KeypairStatus.key).Nodup →
      ((run checkUserInAccount s acts).tracker.map KeypairStatus.key).Nodup from
    this _ List.nodup_nil
  induction acts with
  | nil => exact fun _ h => h
  | cons a acts ih => exact fun s h => ih _ (step_keys_nodup checkUserInAccount h a)

/-! ### Generate requests -/

theorem step_generate_of_verified (s : Sys) {r : KeypairRequest} {k : KeypairWithPrivateKey}
    {w : ResponseWriter BooleanResponse} (h : verifyKeypair checkUserInAccount r ResponseWriter.empty = (some k, w)) :
    step checkUserInAccount s (.generate r) =
      { s with workers := s.workers ++ [⟨⟨k.authorityID, "", k.keyName⟩, .spawned⟩],
               sent := s.sent ++ [acceptedAnswer (statusURL k.authorityID k.keyName)] } := by
  simp [step, keypairGenerateHandler_of_verified checkUserInAccount h]

@[simp] theorem runningFor_append_spawned (s : Sys) (call : GenerateKeypairCall)
    (ws : List (ResponseWriter BooleanResponse)) :
    runningFor { s with workers := s.workers ++ [⟨call, .spawned⟩], sent := ws }
        call.authorityID call.keyName = runningFor s call.authorityID call.keyName + 1 := by
  simp [runningFor, Worker.running]

/-- Every request that passes `verifyKeypair` is accepted with `202` and starts one more worker
for its key, in every state: the handler never looks at the tracker or the running workers. -/
theorem generate_always_accepted (s : Sys) (r : KeypairRequest) (k : KeypairWithPrivateKey)
    (w : ResponseWriter BooleanResponse) (h : verifyKeypair checkUserInAccount r ResponseWriter.empty = (some k, w)) :
    let s' := step checkUserInAccount s (.generate r)
    s'.tracker = s.tracker ∧
      (∃ answer, s'.sent = s.sent ++ [answer] ∧ answer.status = some statusAccepted ∧
        answer.body = [⟨true, "", "", statusURL k.authorityID k.keyName⟩]) ∧
      runningFor s' k.authorityID k.keyName = runningFor s k.authorityID k.keyName + 1 := by
  rw [step_generate_of_verified checkUserInAccount s h]
  exact ⟨rfl, ⟨_, rfl, by simp, by simp⟩, runningFor_append_spawned s ⟨k.authorityID, "", k.keyName⟩ _⟩

theorem generate_always_accepted_after_first_job :
    let ck : String → String → Bool := fun _ _ => true
    let req : KeypairRequest := ⟨some ⟨"admin"⟩, .json ⟨0, "acme", "", "prod-key"⟩⟩
    let s := run ck Sys.init [.generate req, .work 0 none]
    verifyKeypair ck req ResponseWriter.empty =
        (some ⟨0, "acme", "", "prod-key"⟩,
          ResponseWriter.empty.setHeader "Content-Type" "application/json; charset=UTF-8") ∧
      ((step ck s (.generate req)).tracker = s.tracker ∧
        (∃ answer, (step ck s (.generate req)).sent = s.sent ++ [answer] ∧
          answer.status = some statusAccepted ∧
          answer.body = [⟨true, "", "", statusURL "acme" "prod-key"⟩]) ∧
        runningFor (step ck s (.generate req)) "acme" "prod-key" = runningFor s "acme" "prod-key" + 1) :=
  ⟨by decide, generate_always_accepted _ _ _ ⟨0, "acme", "", "prod-key"⟩
    (ResponseWriter.empty.setHeader "Content-Type" "application/json; charset=UTF-8") (by decide)⟩

/-- A second generate request for a key whose first job is still `Generating` is accepted too,
and two workers for the key run at once. -/
theorem generate_accepted_while_generating :
    let ck : String → String → Bool := fun _ _ => true
    let req : KeypairRequest := ⟨some ⟨"admin"⟩, .json ⟨0, "acme", "", "prod-key"⟩⟩
    let s := run ck Sys.init [.generate req, .work 0 none]
    getKeypairStatus s.tracker none "acme" "prod-key" = .ok ⟨"acme", "prod-key", .generating⟩ ∧
      (step ck s (.generate req)).sent.map (fun w => (w.status, w.body)) =
        [(some statusAccepted, [⟨true, "", "", "/v1/keypairs/status/acme/prod-key"⟩]),
         (some statusAccepted, [⟨true, "", "", "/v1/keypairs/status/acme/prod-key"⟩])] ∧
      runningFor (step ck s (.generate req)) "acme" "prod-key" = 2 :=
  ⟨rfl, by decide, by decide⟩

/-! ### Polls -/

theorem step_keys_extend (s : Sys) (a : Action) :
    s.tracker.map KeypairStatus.key <+:
      (step checkUserInAccount s a).tracker.map KeypairStatus.key := by
  cases a with
  | generate r => exact List.prefix_refl _
  | poll r fault => exact List.prefix_refl _
  | work i err =>
    rcases step_work_cases checkUserInAccount s i err with h | ⟨w, -, ⟨-, h⟩ | ⟨st, -, -, h⟩⟩ <;>
      simp only [h]
    · exact List.prefix_refl _
    · rw [map_key_createKeypairStatus]
      split_ifs
      · exact List.prefix_refl _
      · exact List.prefix_append _ _
    · simp only [map_key_updateKeypairStatus]
      exact List.prefix_refl _

/-- Along any run the tracker only grows: no row is deleted and no row changes its key. -/
theorem run_keys_extend (s : Sys) (acts : List Action) :
    s.tracker.map KeypairStatus.key <+:
      (run checkUserInAccount s acts).tracker.map KeypairStatus.key := by
  induction acts generalizing s with
  | nil => exact List.prefix_refl _
  | cons a acts ih => exact (step_keys_extend checkUserInAccount s a).trans (ih _)

theorem step_work_spawned_key (s : Sys) {i : ℕ} {w : Worker} (hw : s.workers[i]? = some w)
    (hsp : w.phase = .spawned) (err : Option String) :
    (w.call.authorityID, w.call.keyName) ∈
      (step checkUserInAccount s (.work i err)).tracker.map KeypairStatus.key := by
  simp only [step, hw, generateKeypairStep, hsp, map_key_createKeypairStatus]
  split_ifs with h
  · exact h
  · simp

/-- Once the worker a generate request started has taken its first step, every later poll for
its key by a permitted user whose tracker read does not fail finds a row and answers with that
row's status. -/
theorem poll_finds_row_after_first_step (s : Sys) (i : ℕ) (w : Worker)
    (hw : s.workers[i]? = some w) (hsp : w.phase = .spawned) (err : Option String)
    (acts : List Action) (u : User) (hp : checkUserInAccount u.username w.call.authorityID = true)
    (fault : Option String) (hread : fault = none) :
    let s' := run checkUserInAccount (step checkUserInAccount s (.work i err)) acts
    ∃ ks, getKeypairStatus s'.tracker fault w.call.authorityID w.call.keyName = .ok ks ∧
      (step checkUserInAccount s' (.poll ⟨some u, w.call.authorityID, w.call.keyName⟩ fault)).sent =
        s'.sent ++ [formatBooleanResponse true "" "" ks.status.text ResponseWriter.empty] := by
  intro s'
  subst hread
  have hrow : s'.tracker.any (KeypairStatus.isFor w.call.authorityID w.call.keyName) :=
    any_isFor_iff_mem_keys.mpr
      ((run_keys_extend checkUserInAccount _ acts).subset
        (step_work_spawned_key checkUserInAccount s hw hsp err))
  obtain ⟨ks, hks, hans⟩ :=
    keypairStatusHandler_of_row checkUserInAccount (r := ⟨some u, _, _⟩) rfl hp hrow
  exact ⟨ks, hks, by simp [step, hans]⟩

theorem poll_finds_row_after_first_step_acme :
    let ck : String → String → Bool := fun _ _ => true
    let req : KeypairRequest := ⟨some ⟨"admin"⟩, .json ⟨0, "acme", "", "prod-key"⟩⟩
    let s := run ck Sys.init [.generate req]
    let w : Worker := ⟨⟨"acme", "", "prod-key"⟩, .spawned⟩
    (s.workers[0]? = some w ∧ w.phase = .spawned ∧ ck "admin" "acme" = true ∧
        (none : Option String) = none) ∧
      let s' := run ck (step ck s (.work 0 none)) [.generate req, .work 0 none]
      ∃ ks, getKeypairStatus s'.tracker none "acme" "prod-key" = .ok ks ∧
        (step ck s' (.poll ⟨some ⟨"admin"⟩, "acme", "prod-key"⟩ none)).sent =
          s'.sent ++ [formatBooleanResponse true "" "" ks.status.text ResponseWriter.empty] :=
  ⟨by decide, poll_finds_row_after_first_step _
    (run (fun _ _ => true) Sys.init [.generate ⟨some ⟨"admin"⟩, .json ⟨0, "acme", "", "prod-key"⟩⟩])
    0 ⟨⟨"acme", "", "prod-key"⟩, .spawned⟩ (by decide) rfl none
    [.generate ⟨some ⟨"admin"⟩, .json ⟨0, "acme", "", "prod-key"⟩⟩, .work 0 none] ⟨"admin"⟩ rfl
    none rfl⟩

/-- A poll made after the `202` but before the worker's first step finds no row. -/
theorem poll_after_accepted_not_found :
    let ck : String → String → Bool := fun _ _ => true
    let req : KeypairRequest := ⟨some ⟨"admin"⟩, .json ⟨0, "acme", "", "prod-key"⟩⟩
    (run ck Sys.init [.generate req, .poll ⟨some ⟨"admin"⟩, "acme", "prod-key"⟩ none]).sent.map
        (fun w => (w.status, w.body)) =
      [(some statusAccepted, [⟨true, "", "", "/v1/keypairs/status/acme/prod-key"⟩]),
       (some statusBadRequest,
         [⟨false, "error-keypair-json", "", "Cannot find the status of the keypair"⟩])] := by
  decide

/-! ### Accepted answers and the jobs started -/

/-- The polling URL an answer announces: the message of its envelope, when its status line is
`202 Accepted`. -/
def acceptedURL (w : ResponseWriter BooleanResponse) : Option String :=
  if w.status = some statusAccepted then w.body.head?.map BooleanResponse.message else none

/-- The polling URL of a worker's job. -/
def Worker.url (w : Worker) : String := statusURL w.call.authorityID w.call.keyName

theorem formatBooleanResponse_status (success : Bool) (errorCode errorSubcode message : String)
    (w : ResponseWriter BooleanResponse) :
    (formatBooleanResponse success errorCode errorSubcode message w).status =
      some (w.status.getD statusOK) := by
  simp [formatBooleanResponse, statusOK]

theorem badRequest_status (errorCode message : String) (w : ResponseWriter BooleanResponse) :
    (badRequest errorCode message w).status = some (w.status.getD statusBadRequest) := by
  simp [badRequest, formatBooleanResponse_status, ResponseWriter.writeHeader_status]

theorem verifyKeypair_refused_status {r : KeypairRequest}
    (h : (verifyKeypair checkUserInAccount r ResponseWriter.empty).1 = none) :
    (verifyKeypair checkUserInAccount r ResponseWriter.empty).2.status ≠ some statusAccepted := by
  obtain ⟨_ | u, _ | _ | e | k⟩ := r <;>
    simp only [verifyKeypair] at h ⊢ <;> try split_ifs at h ⊢
  all_goals simp [formatBooleanResponse_status, badRequest_status, ResponseWriter.empty, statusOK,
    statusBadRequest, statusAccepted] at h ⊢

theorem acceptedURL_generate (r : KeypairRequest) :
    acceptedURL (keypairGenerateHandler checkUserInAccount r).2 =
      (keypairGenerateHandler checkUserInAccount r).1.map
        fun call => statusURL call.authorityID call.keyName := by
  rcases hv : verifyKeypair checkUserInAccount r ResponseWriter.empty with ⟨_ | k, w⟩
  · have hs := verifyKeypair_refused_status checkUserInAccount (r := r) (by rw [hv])
    rw [hv] at hs
    simp [keypairGenerateHandler, hv, acceptedURL, hs]
  · rw [keypairGenerateHandler_of_verified checkUserInAccount hv]
    simp [acceptedURL]

theorem acceptedURL_poll (tracker : List KeypairStatus) (fault : Option String) (r : StatusRequest) :
    acceptedURL (keypairStatusHandler checkUserInAccount tracker fault r) = none := by
  refine if_neg ?_
  unfold keypairStatusHandler
  split <;> (try split_ifs) <;> (try split) <;>
    simp [formatBooleanResponse_status, badRequest_status, ResponseWriter.empty, statusOK,
      statusBadRequest, statusAccepted]

theorem map_url_set {workers : List Worker} {i : ℕ} {w : Worker} (hi : workers[i]? = some w)
    (phase : WorkerPhase) :
    (workers.set i { w with phase := phase }).map Worker.url = workers.map Worker.url := by
  rw [List.map_set]
  exact list_set_eq_self (by simp [hi, Worker.url])

theorem step_announced {s : Sys} (h : s.sent.filterMap acceptedURL = s.workers.map Worker.url)
    (a : Action) :
    (step checkUserInAccount s a).sent.filterMap acceptedURL =
      (step checkUserInAccount s a).workers.map Worker.url := by
  cases a with
  | generate r =>
    have hg := acceptedURL_generate checkUserInAccount r
    simp only [step, List.filterMap_append, List.map_append, h, List.filterMap_cons,
      List.filterMap_nil, hg]
    cases (keypairGenerateHandler checkUserInAccount r).1 <;> rfl
  | poll r fault =>
    simp [step, List.filterMap_append, h, acceptedURL_poll]
  | work i err =>
    rcases step_work_cases checkUserInAccount s i err with
      he | ⟨w, hi, ⟨-, he⟩ | ⟨st, -, -, he⟩⟩ <;> rw [he]
    · exact h
    · exact h.trans (map_url_set hi _).symm
    · exact h.trans (map_url_set hi _).symm

/-- Along every run from the initial state, the `202 Accepted` answers sent carry, in order,
exactly the polling URLs of the workers started, in start order: every accepted generate request
started exactly one worker, for the keypair it announced, and no worker was started without
one. -/
theorem run_accepted_match_workers (acts : List Action) :
    (run checkUserInAccount Sys.init acts).sent.filterMap acceptedURL =
      (run checkUserInAccount Sys.init acts).workers.map Worker.url := by
  suffices ∀ s : Sys, s.sent.filterMap acceptedURL = s.workers.map Worker.url →
      (run checkUserInAccount s acts).sent.filterMap acceptedURL =
        (run checkUserInAccount s acts).workers.map Worker.url from this _ rfl
  induction acts with
  | nil => exact fun _ h => h
  | cons a acts ih => exact fun s h => ih _ (step_announced checkUserInAccount h a)

/-! ### Which authorities the subsystem works for -/

/-- An authority-id `verifyKeypair` can pass on: non-empty, with no white space at either end,
and one that the account check permits some user to act for. -/
def AcceptedAuthority (a : String) : Prop :=
  a.length ≠ 0 ∧ (∀ c ∈ a.data.head?, isSpace c = false) ∧
    (∀ c ∈ a.data.getLast?, isSpace c = false) ∧ ∃ u : User, checkUserInAccount u.username a = true

/-- Every worker was started, and every row inserted, for an accepted authority-id. -/
def AuthoritiesAccepted (s : Sys) : Prop :=
  (∀ w ∈ s.workers, AcceptedAuthority checkUserInAccount w.call.authorityID) ∧
    ∀ ks ∈ s.tracker, AcceptedAuthority checkUserInAccount ks.authorityID

theorem acceptedAuthority_of_verified {r : KeypairRequest} {k : KeypairWithPrivateKey}
    {w : ResponseWriter BooleanResponse}
    (h : verifyKeypair checkUserInAccount r ResponseWriter.empty = (some k, w)) :
    AcceptedAuthority checkUserInAccount k.authorityID := by
  obtain ⟨u, -, -, -, -, hlen, hck, hhead, hlast⟩ := verifyKeypair_ok checkUserInAccount h
  exact ⟨hlen, hhead, hlast, u, hck⟩

theorem authority_of_mem_keys {tracker : List KeypairStatus} {P : String → Prop}
    (ht : ∀ ks ∈ tracker, P ks.authorityID) {p : String × String}
    (hp : p ∈ tracker.map KeypairStatus.key) : P p.1 := by
  obtain ⟨ks, hks, rfl⟩ := List.mem_map.mp hp
  exact ht ks hks

theorem step_authoritiesAccepted {s : Sys} (hs : AuthoritiesAccepted checkUserInAccount s)
    (a : Action) : AuthoritiesAccepted checkUserInAccount (step checkUserInAccount s a) := by
  obtain ⟨hw, ht⟩ := hs
  cases a with
  | generate r =>
    refine ⟨fun w hmem => ?_, ht⟩
    rcases List.mem_append.mp hmem with hmem | hmem
    · exact hw w hmem
    · obtain ⟨call, hcall, rfl⟩ : ∃ call, (keypairGenerateHandler checkUserInAccount r).1 = some call ∧
          ⟨call, .spawned⟩ = w := by simpa using hmem
      obtain ⟨k, w, hv, rfl⟩ := keypairGenerateHandler_call checkUserInAccount hcall
      exact acceptedAuthority_of_verified checkUserInAccount hv
  | poll r fault => exact ⟨hw, ht⟩
  | work i err =>
    have hset : ∀ (w : Worker) (phase : WorkerPhase), s.workers[i]? = some w →
        ∀ w' ∈ s.workers.set i { w with phase := phase },
          AcceptedAuthority checkUserInAccount w'.call.authorityID := by
      intro w phase hi w' hmem
      rcases List.mem_or_eq_of_mem_set hmem with hmem | rfl
      · exact hw w' hmem
      · exact hw w (List.getElem?_mem hi)
    rcases step_work_cases checkUserInAccount s i err with h | ⟨w, hi, ⟨-, h⟩ | ⟨st, -, -, h⟩⟩ <;>
      rw [h]
    · exact ⟨hw, ht⟩
    · refine ⟨hset _ _ hi, fun ks hks => ?_⟩
      have hk := List.mem_map_of_mem KeypairStatus.key hks
      rw [map_key_createKeypairStatus] at hk
      split_ifs at hk
      · exact authority_of_mem_keys ht hk
      · rcases List.mem_append.mp hk with hk | hk
        · exact authority_of_mem_keys ht hk
        · show AcceptedAuthority checkUserInAccount ks.key.1
          rw [List.mem_singleton.mp hk]
          exact hw w (List.getElem?_mem hi)
    · refine ⟨hset _ _ hi, fun ks hks => ?_⟩
      have hk := List.mem_map_of_mem KeypairStatus.key hks
      rw [map_key_updateKeypairStatus] at hk
      exact authority_of_mem_keys ht hk

/-- Along every run from the initial state, every worker was started, and every tracker row
inserted, for an authority-id that `verifyKeypair` passed: non-blank, trimmed, and one the
account check permits some user to act for. -/
theorem run_authoritiesAccepted (acts : List Action) :
    AuthoritiesAccepted checkUserInAccount (run checkUserInAccount Sys.init acts) := by
  suffices ∀ s, AuthoritiesAccepted checkUserInAccount s →
      AuthoritiesAccepted checkUserInAccount (run checkUserInAccount s acts) from
    this _ ⟨fun _ h => by simp [Sys.init] at h, fun _ h => by simp [Sys.init] at h⟩
  induction acts with
  | nil => exact fun _ hs => hs
  | cons a acts ih => exact fun s hs => ih _ (step_authoritiesAccepted checkUserInAccount hs a)

end system

end IdentityVault
