import SpikeBackend.Accounts.Closure
import SpikeBackend.Model.AccountRuns

/-!
# Deleted accounts

A deletion clears the active flag with the deletion date, and no suspension sets it. A
reactivation does not look at the date, though, so it makes a deleted account active again.

* `deleted_stay_inactive` — deleted accounts are inactive on every run that reactivates none
  of them;
* `deleted_reactivated` — an account that is deleted and then reactivated.
-/

namespace SpikeBackend

open Relational Text Outcome Machine

namespace PlatformDatabase

/-- A deleted account is not active. -/
def DeletedInactive (db : PlatformDatabase) : Prop :=
  ∀ u ∈ db.users, u.deletedAt ≠ none → u.isActive = false

instance decidableDeletedInactive (db : PlatformDatabase) : Decidable db.DeletedInactive :=
  inferInstanceAs (Decidable (∀ u ∈ db.users, u.deletedAt ≠ none → u.isActive = false))

variable {db db' : PlatformDatabase} {settings : AuthSettings} {now : Datetime}

/-- One account is rewritten. -/
theorem deletedInactive_of_update? {saved : User} (h : db.DeletedInactive)
    (hUpdate : db.users.update? saved = some db'.users)
    (hSaved : saved.deletedAt ≠ none → saved.isActive = false) : db'.DeletedInactive := by
  intro u hu hDeleted
  rcases (Table.mem_update? hUpdate).mp hu with ⟨rfl, -⟩ | ⟨hOld, -⟩
  · exact hSaved hDeleted
  · exact h u hOld hDeleted

/-- A deletion leaves the account inactive. -/
theorem deleteAccount_deletedInactive {loaded : Option User} {userId : Uuid}
    {currentPassword nonce newHash : Str} (h : db.DeletedInactive)
    (hDelete : db.deleteAccount settings loaded userId currentPassword nonce newHash now =
      .ok db') : db'.DeletedInactive := by
  obtain ⟨checked, hCheck, hCommit⟩ := bind_eq_ok.mp hDelete
  obtain ⟨-, hActive, hOpen, -⟩ := checkDeletion_eq_ok hCheck
  obtain ⟨row, -, -, hUpdate⟩ := (commitDeletion_eq_ok hCommit).account
  exact deletedInactive_of_update? h hUpdate fun _ => (User.flushClosure_flags hActive hOpen).2.1

/-- A change of the active state keeps deleted accounts inactive unless it reactivates one. -/
theorem changeActiveState_deletedInactive {actor : User} {targetUserId : Uuid}
    {desiredActive : Bool} (h : db.DeletedInactive)
    (hCond : desiredActive = true → AccountDatabase.validActor actor = true →
      ∀ target, db.signIn.activeStateTarget actor targetUserId = .ok target →
        target.deletedAt = none)
    (hChange : db.changeActiveState actor targetUserId desiredActive now = .ok db') :
    db'.DeletedInactive := by
  obtain ⟨target, saved, hActor, hTarget, hSaved, hDate, hUpdate⟩ :=
    changeActiveState_eq_ok hChange
  refine deletedInactive_of_update? h hUpdate fun hDeleted => ?_
  rw [hSaved]
  cases desiredActive with
  | false => rfl
  | true =>
    -- the account that is reactivated is not a deleted one
    rw [hDate, hCond rfl hActor target hTarget] at hDeleted
    exact absurd rfl hDeleted

end PlatformDatabase

namespace AccountState

variable {settings : AuthSettings} {s : AccountState}

/-- The account that the transaction of the request reactivates. -/
def reactivated (db : PlatformDatabase) (client : AccountClient) : Option User :=
  match client.request with
  | .changeActiveState _ targetUserId true =>
    if !client.isEnded && AccountDatabase.validActor client.user then
      (db.signIn.activeStateTarget client.user targetUserId).toOption
    else none
  | _ => none

/-- A step reactivates no deleted account. -/
def ReactivatesNoDeleted (s : AccountState) (timed : TimedAccountAction) : Prop :=
  match timed.action with
  | .transact i =>
    ∀ client ∈ s.clients[i]?, ∀ target ∈ reactivated s.db client, target.deletedAt = none
  | .arrive _ | .change _ => True

instance decidableReactivatesNoDeleted (s : AccountState) :
    ∀ timed, Decidable (ReactivatesNoDeleted s timed)
  | ⟨_, .transact i⟩ =>
    inferInstanceAs (Decidable (∀ client ∈ s.clients[i]?, ∀ target ∈ reactivated s.db client,
      target.deletedAt = none))
  | ⟨_, .arrive _⟩ | ⟨_, .change _⟩ => inferInstanceAs (Decidable True)

/-- One transaction keeps deleted accounts inactive under the condition. -/
theorem perform_deletedInactive {client : AccountClient} {now : Datetime}
    (h : s.db.DeletedInactive) (hOpen : client.isEnded = false)
    (hCond : ∀ target ∈ reactivated s.db client, target.deletedAt = none) :
    (perform settings s.db client now).DeletedInactive := by
  unfold perform
  unfold reactivated at hCond
  cases hRequest : client.request with
  | delete token currentPassword nonce newHash =>
    dsimp only
    split
    · next hDelete => exact PlatformDatabase.deleteAccount_deletedInactive h hDelete
    · exact h
  | changeActiveState token targetUserId desiredActive =>
    rw [hRequest] at hCond
    dsimp only
    split
    · next hChange =>
      refine PlatformDatabase.changeActiveState_deletedInactive h (fun hTrue hActor target hTarget =>
        ?_) hChange
      rw [hTrue] at hCond
      refine hCond target ?_
      -- The target is looked at only when the request is carried out.
      simp [hOpen, hActor, hTarget, Except.toOption]
    · exact h

/-- **One step.** It keeps deleted accounts inactive under the condition. -/
theorem step_deletedInactive (s : AccountState) (timed : TimedAccountAction)
    (h : s.db.DeletedInactive) (hCond : ReactivatesNoDeleted s timed) :
    (step settings s timed).db.DeletedInactive := by
  unfold ReactivatesNoDeleted at hCond
  unfold step
  cases hAction : timed.action with
  | arrive request =>
    dsimp only
    split <;> exact h
  | transact i =>
    rw [hAction] at hCond
    dsimp only at hCond ⊢
    split
    · exact h
    · next client hClient =>
      split
      · exact h
      · next hOpen =>
        exact perform_deletedInactive h (Bool.not_eq_true _ ▸ hOpen) (hCond client hClient)
  | change db =>
    dsimp only
    split
    · next hKeeps =>
      intro u' hu' hDeleted
      -- What other code writes changes neither flag.
      rcases hKeeps u' hu' with ⟨u, hu, -, hActive, hDate⟩ | ⟨-, hNew⟩
      · rw [← hActive]
        exact h u hu (hDate ▸ hDeleted)
      · exact absurd hNew hDeleted
    · exact h

/-- **Deleted accounts.** On a run that reactivates no deleted account, a deleted account is
never active. -/
theorem deleted_stay_inactive (settings : AuthSettings) (db : PlatformDatabase)
    (actions : List TimedAccountAction) (hStart : db.DeletedInactive)
    (hMeets : Meets (step settings) ReactivatesNoDeleted { db } actions) :
    (run (step settings) { db } actions).db.DeletedInactive :=
  run_invariant_of_meets (I := fun s : AccountState => s.db.DeletedInactive)
    step_deletedInactive hStart hMeets

end AccountState

-- ---------------------------------------------------------------------------
-- A deleted account that is reactivated
-- ---------------------------------------------------------------------------

namespace AccountSample

def settings : AuthSettings where
  otpMaxAttempts := 5
  otpMaxAttempts_pos := TwoStepSettings.default_otpMaxAttempts_pos
  otpResendCooldownSeconds := 60
  emailTwoStepExpireMinutes := 10
  verifyOtp rawOtp otpHash := rawOtp == otpHash
  verifyPassword password passwordHash := password == passwordHash
  lower := id
  accessTokenExpireMinutes := 15
  refreshTokenExpireDays := 7
  encodeJwt _ _ := []
  decodeJwt _ _ := none
  hashOpaqueToken := id

def customer : User :=
  { id := 1, email := str "a@b.c", passwordHash := str "old", isVerified := true }

def administrator : User :=
  { id := 2, email := str "admin@b.c", passwordHash := str "admin", role := .superAdmin,
    isVerified := true }

/-- Some account, with the administrator. -/
def database : PlatformDatabase :=
  { users := ((Table.single customer (by decide)).insert? administrator).getD .empty }

def token (userId : Uuid) : DecodedToken := ⟨userId, userId, .access, 0, minutes 15⟩

def deletion : AccountRequest := .delete (token 1) (str "old") (str "nonce") (str "random")

def actionAt (second : Int) (action : AccountAction) : TimedAccountAction := ⟨seconds second, action⟩

/-- The owner deletes the account, and the administrator sets its state afterwards. -/
def afterDeletion (desiredActive : Bool) : List TimedAccountAction :=
  [actionAt 1 (.arrive deletion), actionAt 2 (.transact 0),
    actionAt 3 (.arrive (.changeActiveState (token 2) 1 desiredActive)), actionAt 4 (.transact 1)]

end AccountSample

namespace AccountState

open AccountSample

/-- A suspension leaves the deleted account inactive. -/
theorem deleted_stay_inactive_sample :
    (run (step settings) { db := database } (afterDeletion false)).db.DeletedInactive :=
  deleted_stay_inactive settings database (afterDeletion false) (by decide) (by decide +kernel)

/-- **A deleted account becomes active**, when the administration reactivates it. -/
theorem deleted_reactivated :
    ∃ u ∈ (run (step settings) { db := database } (afterDeletion true)).db.users,
      u.id = 1 ∧ u.deletedAt = some (seconds 2) ∧ u.isActive = true := by
  decide +kernel

end AccountState

end SpikeBackend
