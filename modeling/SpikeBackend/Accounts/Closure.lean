import SpikeBackend.Model.AccountClosure

/-!
# What closing an account does

* `checkDeletion_eq_ok`, `commitDeletion_eq_ok` — what a deletion has found out, and the rows
  that it leaves;
* `changeActiveState_eq_ok` — the row of a suspended or reactivated account.
-/

namespace SpikeBackend

open Relational Text Outcome Session

namespace User

variable {user row : User} {nonce passwordHash : Str} {now : Datetime}

/-- The row of an account that was closed over an instance of an open one. -/
theorem flushClosure_flags (hActive : user.isActive = true) (hOpen : user.deletedAt = none) :
    ((user.anonymized nonce passwordHash now).flushClosure user row).id = row.id ∧
      ((user.anonymized nonce passwordHash now).flushClosure user row).isActive = false ∧
      ((user.anonymized nonce passwordHash now).flushClosure user row).deletedAt = some now := by
  refine ⟨rfl, ?_, ?_⟩
  · -- the instance was active, so the flag was assigned and is written
    show column user.isActive false row.isActive = false
    rw [hActive]
    exact column_of_ne Bool.false_ne_true
  · show column user.deletedAt (some now) row.deletedAt = some now
    rw [hOpen]
    exact column_of_ne (Option.some_ne_none now)

end User

namespace PlatformDatabase

variable {db db' : PlatformDatabase} {settings : AuthSettings} {loaded : Option User}
  {userId : Uuid} {now : Datetime}

/-- `_lock_user` goes on only with an active user who has not been deleted, as the session sees it.
-/
theorem lockUser_eq_ok {row user : User} (h : db.lockUser loaded userId = .ok (row, user)) :
    row ∈ db.users ∧ row.id = userId ∧ user.id = userId ∧ user.isActive = true ∧
      user.deletedAt = none := by
  unfold lockUser at h
  split at h
  · next locked hLocked =>
    obtain rfl := Except.ok.inj h
    simp only [AccountDatabase.lockUser, bind_eq_ok, required_eq_ok, ensure_eq_ok] at hLocked
    obtain ⟨row', hRow, u, hOpen, hDone⟩ := hLocked
    obtain ⟨rfl, rfl⟩ := Prod.mk.inj (Except.ok.inj hDone)
    obtain ⟨hMem, hId⟩ := Table.get?_eq_some.mp hRow
    refine ⟨hMem, hId, ?_, hOpen⟩
    -- the instance is the row itself or the copy that the session had loaded
    rcases locked_filter_cases rfl with hRowIs | ⟨-, hCopy⟩
    · rw [hRowIs]
      exact hId
    · exact beq_iff_eq.mp hCopy
  · cases h

/-- Nothing of the business of the account is pending or open, and no subscription of it is
current but the one that the deletion cancels. -/
def ReadyToClose (db : BillingDatabase) (checked : CheckedDeletion) : Prop :=
  ∀ b ∈ db.businesses, b.ownerUserId = checked.user.id →
    (∀ c ∈ db.checkouts, c.businessId = b.id → c.status.isUnfinished = false) ∧
      ∀ s ∈ db.subscriptions, s.businessId = b.id → s.status.isCurrent = true →
        checked.currentSubscription = some s

/-- What the checks read of the business. -/
theorem readBusiness_ready {checked : CheckedDeletion}
    (h : db.readBusiness checked.user.id =
      .ok (checked.currentSubscription, checked.roleAssignment)) :
    ReadyToClose db.toBillingDatabase checked := by
  intro b hb hOwner
  unfold readBusiness at h
  split at h
  · next hNone =>
    have hNot := Table.find?_eq_none.mp hNone b hb
    simp [hOwner] at hNot
  · next business hBusiness =>
    -- an owner has one business
    have hEq : b = business := by
      refine Table.eq_of_clash hb (Table.mem_of_find? hBusiness) ?_
      have hOwned : business.ownerUserId = checked.user.id := by
        simpa using Table.prop_of_find? hBusiness
      show (b.ownerUserId == business.ownerUserId) = true
      rw [hOwner, hOwned]
      exact beq_self_eq_true checked.user.id
    subst hEq
    simp only [bind_eq_ok, ensure_eq_ok] at h
    obtain ⟨-, hBilling, hDone⟩ := h
    obtain ⟨hCurrent, -⟩ := Prod.mk.inj (Except.ok.inj hDone)
    simp only [hasOpenBilling, Bool.or_eq_false_iff, Option.isSome_eq_false_iff] at hBilling
    obtain ⟨⟨hNone, -⟩, -⟩ := hBilling
    refine ⟨fun c hc hScope => ?_, fun s hs hScope hStatus => ?_⟩
    · have hNot := Table.find?_eq_none.mp (Option.isNone_iff_eq_none.mp hNone) c hc
      simpa [hScope] using hNot
    · rw [← hCurrent]
      exact SubscriptionTables.getCurrent_of_mem hs hScope hStatus

/-- **The checks of a deletion.** The account is open, and nothing of its business is in the
way. -/
theorem checkDeletion_eq_ok {currentPassword : Str} {checked : CheckedDeletion}
    (h : db.checkDeletion settings loaded userId currentPassword now = .ok checked) :
    checked.user.id = userId ∧ checked.user.isActive = true ∧ checked.user.deletedAt = none ∧
      ReadyToClose db.toBillingDatabase checked := by
  simp only [checkDeletion, bind_eq_ok, ensure_eq_ok] at h
  obtain ⟨⟨row, user⟩, hLocked, -, -, -, -, ⟨current, assignment⟩, hRead, hDone⟩ := h
  obtain rfl := Except.ok.inj hDone
  obtain ⟨-, -, hUserId, hActive, hOpen⟩ := lockUser_eq_ok hLocked
  exact ⟨hUserId, hActive, hOpen, readBusiness_ready hRead⟩

/-- The rows of the other accounts, of the businesses and of the checkouts are what they were;
a subscription is canceled or what it was. -/
structure DeletionWrites (db db' : PlatformDatabase) (checked : CheckedDeletion)
    (nonce newHash : Str) : Prop where
  account : ∃ row ∈ db.users, row.id = checked.user.id ∧
    db.users.update? ((checked.user.anonymized nonce newHash checked.now).flushClosure checked.user
      row) = some db'.users
  businesses : db'.businesses = db.businesses
  checkouts : db'.checkouts = db.checkouts
  subscriptions : ∀ s ∈ db'.subscriptions, s.status.isCurrent = true →
    s ∈ db.subscriptions ∧ checked.currentSubscription ≠ some s

/-- **The commit of a deletion.** -/
theorem commitDeletion_eq_ok {checked : CheckedDeletion} {nonce newHash : Str}
    (h : db.commitDeletion checked nonce newHash = .ok db') :
    DeletionWrites db db' checked nonce newHash := by
  simp only [commitDeletion, bind_eq_ok, required_eq_ok] at h
  obtain ⟨row, hRow, subscriptions, hCancel, roleAssignments, -, users, hUpdate, hDone⟩ := h
  obtain rfl := Except.ok.inj hDone
  obtain ⟨hMem, hId⟩ := Table.get?_eq_some.mp hRow
  -- the subscription that was current is canceled, and no other one becomes current
  refine ⟨⟨row, hMem, hId, hUpdate⟩, rfl, rfl, fun s hs hCurrent => ?_⟩
  have hs : s ∈ subscriptions := hs
  unfold cancelCurrent at hCancel
  split at hCancel
  · next hNone =>
    obtain rfl := Option.some.inj hCancel
    exact ⟨hs, fun hSome => by rw [hNone] at hSome; cases hSome⟩
  · next current hSome =>
    rcases (Table.mem_update? hCancel).mp hs with ⟨rfl, -⟩ | ⟨hOld, hNe⟩
    · cases hCurrent
    · refine ⟨hOld, fun hSame => hNe ?_⟩
      rw [hSome] at hSame
      rw [← Option.some.inj hSame]
      rfl

/-- **Suspension and reactivation.** -/
theorem changeActiveState_eq_ok {actor : User} {targetUserId : Uuid} {desiredActive : Bool}
    (h : db.changeActiveState actor targetUserId desiredActive now = .ok db') :
    ∃ target saved, AccountDatabase.validActor actor = true ∧
      db.signIn.activeStateTarget actor targetUserId = .ok target ∧
      saved.isActive = desiredActive ∧ saved.deletedAt = target.deletedAt ∧
      db.users.update? saved = some db'.users := by
  simp only [changeActiveState, bind_eq_ok, required_eq_ok, ensure_eq_ok] at h
  obtain ⟨-, hActor, target, hTarget, signIn, hSave, hDone⟩ := h
  obtain rfl := Except.ok.inj hDone
  simp only [AccountDatabase.saveActiveState, Option.bind_eq_bind, Option.bind_eq_some_iff] at hSave
  obtain ⟨users, hUsers, hSaved⟩ := hSave
  obtain rfl := Option.some.inj hSaved
  -- the target was locked in the same session, so its flag is written as it was assigned
  refine ⟨target, (AccountDatabase.withActiveState target desiredActive).flushAccount target target,
    hActor, hTarget, ?_, rfl, hUsers⟩
  show column target.isActive (AccountDatabase.withActiveState target desiredActive).isActive
    target.isActive = desiredActive
  rw [column_fresh]
  unfold AccountDatabase.withActiveState
  split
  · next hSame => exact hSame
  · rfl

end PlatformDatabase

end SpikeBackend
