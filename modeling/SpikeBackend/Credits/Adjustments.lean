import SpikeBackend.Credits.Conservation

/-!
# The ledger of credit adjustments

The administration adjusts the credits of a business under an idempotency key. The
adjustments are rows that no transaction rewrites, and the limit of an account is a running
sum that both the adjustments and the reservations store anew.

* `adjust_replays` — a key that was used answers with its row;
* `run_adjustments` — the rows of a run stay;
* `adjustments_exactly_once` — each key is applied once, and each adjustment leaves the limit
  of its account at the limit of the plan plus all adjustments of the account.
-/

namespace SpikeBackend

open Relational Text Outcome Machine

namespace CreditTables

variable {db : CreditTables} {accounts : Table AICreditAccount} {account : AICreditAccount}

/-- What the adjustments of an account add up to. -/
def adjustedBy (db : CreditTables) (accountId : Uuid) : Int :=
  ((db.adjustments.rows.filter (·.accountId == accountId)).map (·.delta)).sum

/-- Every adjustment is one of an account of its business and subscription. -/
def AdjustmentsOwned (db : CreditTables) : Prop :=
  ∀ j ∈ db.adjustments, ∃ a ∈ db.accounts, a.id = j.accountId ∧ a.businessId = j.businessId ∧
    a.subscriptionId = j.subscriptionId

/-- The sum that the code reads is over all adjustments of the account. -/
theorem adjustmentTotal_eq (h : db.AdjustmentsOwned) (hOpen : db.Opened accounts account) :
    db.adjustmentTotal account.businessId account = db.adjustedBy account.id := by
  have hFilter : (db.adjustments.rows.filter fun j =>
      j.businessId == account.businessId && j.accountId == account.id &&
        j.subscriptionId == account.subscriptionId) =
      db.adjustments.rows.filter (·.accountId == account.id) := by
    refine List.filter_congr fun j hj => ?_
    cases hId : j.accountId == account.id with
    | false => simp
    | true =>
      -- its account is this one, whose business and subscription it has
      obtain ⟨a, ha, hOf, hBusiness, hSubscription⟩ := h j hj
      have hSame : a = account :=
        Table.eq_of_key_eq (hOpen.mem_of_mem ha) hOpen.mem (hOf.trans (beq_iff_eq.mp hId))
      rw [← hSame, hBusiness, hSubscription]
      simp
  unfold adjustmentTotal adjustedBy
  rw [hFilter]

/-- A move keeps the accounts, so rows that it leaves keep theirs. -/
theorem AdjustmentsOwned.of_move {db' : CreditTables} (h : db.AdjustmentsOwned)
    (hMove : db.Move db') {j : AICreditAdjustmentLedgerEntry} (hj : j ∈ db.adjustments) :
    ∃ a ∈ db'.accounts, a.id = j.accountId ∧ a.businessId = j.businessId ∧
      a.subscriptionId = j.subscriptionId := by
  obtain ⟨a, ha, hId, hBusiness, hSubscription⟩ := h j hj
  obtain ⟨a', ha', hId', hPeriod⟩ := hMove.account_kept ha
  simp only [AICreditAccount.periodKey, Prod.mk.injEq] at hPeriod
  exact ⟨a', ha', hId'.trans hId, hPeriod.1.trans hBusiness, hPeriod.2.1.trans hSubscription⟩

end CreditTables

namespace CreditDatabase

variable {db db' : CreditDatabase} {request : AdjustRequest} {digest : Str}
  {result : AdminAICreditAdjustmentResult}

/-- What a replay answers with. -/
def replayOf (adjustment : AICreditAdjustmentLedgerEntry) : AdminAICreditAdjustmentResult :=
  ⟨adjustment,
    adjustment.effectiveLimitAfter - adjustment.reservedCount - adjustment.consumedCount, true⟩

/-- What a new adjustment leaves: its row, an audit event, and the limit of its account, which
covers what the account has used. -/
structure Applied (db db' : CreditDatabase) (request : AdjustRequest)
    (adjustment : AICreditAdjustmentLedgerEntry) : Prop where
  recorded : db.adjustments.insert? adjustment = some db'.adjustments
  audited : ∃ event, event.targetId = adjustment.accountId ∧
    event.businessId = some request.businessId ∧
    db.auditEvents.insert? event = some db'.auditEvents
  limited : ∃ account ∈ db'.accounts, account.id = adjustment.accountId ∧
    ∃ baseLimit, db.baseLimit request.businessId = some baseLimit ∧
      account.limitValue = some (baseLimit + db'.adjustedBy account.id) ∧
      account.reservedCount + account.consumedCount ≤ baseLimit + db'.adjustedBy account.id ∧
      0 ≤ baseLimit + db'.adjustedBy account.id

/-- The row of a new adjustment. -/
theorem AdjustsNew.inserts (h : db.AdjustsNew request digest db' result) :
    db.adjustments.insert? result.adjustment = some db'.adjustments ∧ result.replayed = false := by
  obtain ⟨adjustment, accounts, account, baseLimit, event, -, -, -, -, -, -, -, -, -, hAdjustments,
    -, -, -, hResult⟩ := h
  rw [hResult]
  exact ⟨hAdjustments, rfl⟩

/-- A new adjustment is applied: its entry, the limit and the event belong together. -/
theorem AdjustsNew.applied (h : db.AdjustsNew request digest db' result)
    (hOwned : db.AdjustmentsOwned) : Applied db db' request result.adjustment := by
  obtain ⟨adjustment, accounts, account, baseLimit, event, hBase, hOpen, hOwner, -, hAsked, hAfter,
    -, hRoom, hAccounts, hAdjustments, hEvent, hAudit, -, hResult⟩ := h
  have hAdjustment : result.adjustment = adjustment := by rw [hResult]
  -- the sum over the account grows by the row that was added
  have hSum : db'.adjustedBy account.id = db.adjustedBy account.id + request.delta := by
    have hOf : (adjustment.accountId == account.id) = true := beq_iff_eq.mpr hOwner.1
    unfold CreditTables.adjustedBy
    rw [Table.rows_insert? hAdjustments]
    simp only [List.filter_cons, hOf, if_true, List.map_cons, List.sum_cons, hAsked.1]
    exact Int.add_comm _ _
  have hLimit : adjustment.effectiveLimitAfter = baseLimit + db'.adjustedBy account.id := by
    rw [hAfter, CreditTables.adjustmentTotal_eq hOwned hOpen, hSum]
    omega
  rw [hAdjustment]
  refine ⟨hAdjustments, ⟨event, hEvent.1.trans hOwner.1.symm, hEvent.2, hAudit⟩,
    { account with limitValue := some adjustment.effectiveLimitAfter }, ?_, hOwner.1.symm,
    baseLimit, hBase, ?_, ?_, ?_⟩
  · exact (Table.mem_update?_iff hAccounts hOpen.mem rfl).mpr (.inl rfl)
  · exact congrArg some hLimit
  · rw [← hLimit]
    exact hRoom.1
  · rw [← hLimit]
    exact hRoom.2

/-- The row of a request that was answered, new or not. -/
theorem adjust_books {sha256 : List UInt8 → Str} {adjustedAt : Datetime} {ids : AdjustIds}
    (h : db.adjust sha256 request adjustedAt ids = .ok (db', result)) :
    ∃ digest, digestAiIdempotencyKey sha256 request.idempotencyKey = .ok digest ∧
      ∃ j ∈ db'.adjustments, j.businessId = request.businessId ∧
        j.idempotencyKeyDigest = digest ∧ j.delta = request.delta ∧
        j.reasonCode = request.reasonCode ∧ { result with replayed := true } = replayOf j := by
  obtain ⟨digest, hDigest, ⟨rfl, existing, hMem, hBusiness, hKey, hDelta, hReason, hResult⟩ |
    ⟨-, hNew⟩⟩ := adjust_cases h
  · refine ⟨digest, hDigest, existing, hMem, hBusiness, hKey, hDelta, hReason, ?_⟩
    rw [hResult]
    rfl
  · -- A new adjustment is stored with the numbers of its answer.
    obtain ⟨adjustment, accounts, account, baseLimit, event, -, -, hOwner, hKey, hAsked, -, hUsed,
      -, -, hAdjustments, -, -, -, hResult⟩ := hNew
    refine ⟨digest, hDigest, adjustment, (Table.mem_insert? hAdjustments).mpr (.inl rfl),
      hOwner.2.1, hKey, hAsked.1, hAsked.2, ?_⟩
    rw [hResult, ← hUsed]
    show AdminAICreditAdjustmentResult.mk adjustment
      (adjustment.effectiveLimitAfter - (adjustment.reservedCount + adjustment.consumedCount)) true =
        replayOf adjustment
    rw [← Int.sub_sub]
    rfl

/-- The request passes the checks on its actor and its business. -/
def Admits (db : CreditDatabase) (request : AdjustRequest) : Prop :=
  (request.actor.role = .superAdmin ∧ request.actor.isActive = true ∧
    request.actor.isVerified = true) ∧ db.businesses.get? request.businessId ≠ none

/-- The row of the key of a request, if there is one, is what the lookup finds. -/
theorem existing_eq {j : AICreditAdjustmentLedgerEntry} (hj : j ∈ db.adjustments)
    (hBusiness : j.businessId = request.businessId) (hKey : j.idempotencyKeyDigest = digest) :
    (db.adjustments.find? fun a =>
      a.businessId == request.businessId && a.idempotencyKeyDigest == digest) = some j := by
  cases hFind : db.adjustments.find? fun a =>
      a.businessId == request.businessId && a.idempotencyKeyDigest == digest with
  | none =>
    have hNot := Table.find?_eq_none.mp hFind j hj
    simp [hBusiness, hKey] at hNot
  | some existing =>
    have hFound := Table.prop_of_find? hFind
    rw [Bool.and_eq_true, beq_iff_eq, beq_iff_eq] at hFound
    -- Business and digest are unique together.
    have hSame : existing = j := by
      refine Table.eq_of_clash (Table.mem_of_find? hFind) hj (decide_eq_true ⟨?_, ?_⟩)
      · rw [hFound.1, hBusiness]
      · rw [hFound.2, hKey]
    rw [hSame]

/-- **Replay.** A key that was used answers with its row. -/
theorem adjust_replays {sha256 : List UInt8 → Str} (adjustedAt : Datetime) (ids : AdjustIds)
    {j : AICreditAdjustmentLedgerEntry} (hAdmits : db.Admits request)
    (hDigest : digestAiIdempotencyKey sha256 request.idempotencyKey = .ok digest)
    (hj : j ∈ db.adjustments) (hBusiness : j.businessId = request.businessId)
    (hKey : j.idempotencyKeyDigest = digest) (hDelta : request.delta = j.delta)
    (hReason : request.reasonCode = j.reasonCode) :
    db.adjust sha256 request adjustedAt ids = .ok (db, replayOf j) := by
  obtain ⟨business, hFound⟩ := Option.ne_none_iff_exists'.mp hAdmits.2
  -- the row passed the check on its delta when it was inserted
  have hChecks := Table.checks_of_mem hj
  simp only [Schema.checks, Bool.and_eq_true, decide_eq_true_eq] at hChecks
  have hRange : request.delta ≠ 0 ∧ -1000 ≤ request.delta ∧ request.delta ≤ 1000 := by
    rw [hDelta]
    exact hChecks.1.1.1.1.2
  simp only [adjust, bind_eq_ok, required_eq_ok, ensure_eq_ok]
  refine ⟨(), hAdmits.1, (), hRange, digest, ?_, business, hFound, ?_⟩
  · rw [hDigest]
    rfl
  · rw [existing_eq hj hBusiness hKey]
    simp only [bind_eq_ok, ensure_eq_ok]
    exact ⟨(), ⟨hDelta.symm, hReason.symm⟩, rfl⟩

/-- How a request answers the later ones of its key: those that ask for the same get the
same, and no other is applied. -/
def Answers (sha256 : List UInt8 → Str) (later : CreditDatabase) (request : AdjustRequest)
    (first : AdminAICreditAdjustmentResult) : Prop :=
  ∀ request' adjustedAt ids, request'.businessId = request.businessId →
    digestAiIdempotencyKey sha256 request'.idempotencyKey =
      digestAiIdempotencyKey sha256 request.idempotencyKey →
    match later.adjust sha256 request' adjustedAt ids with
    | .ok (db', result) =>
      (request'.delta = request.delta ∧ request'.reasonCode = request.reasonCode) ∧
        db' = later ∧ result = { first with replayed := true }
    | .error _ =>
      ¬(request'.delta = request.delta ∧ request'.reasonCode = request.reasonCode) ∨
        ¬later.Admits request'

/-- A stored adjustment answers every later request under its key. -/
theorem answers_of_mem {sha256 : List UInt8 → Str} {first : AdminAICreditAdjustmentResult}
    {j : AICreditAdjustmentLedgerEntry}
    (hDigest : digestAiIdempotencyKey sha256 request.idempotencyKey = .ok digest)
    (hj : j ∈ db.adjustments) (hBusiness : j.businessId = request.businessId)
    (hKey : j.idempotencyKeyDigest = digest) (hDelta : j.delta = request.delta)
    (hReason : j.reasonCode = request.reasonCode)
    (hFirst : { first with replayed := true } = replayOf j) : Answers sha256 db request first := by
  intro request' adjustedAt ids hSameBusiness hSameKey
  rw [hDigest] at hSameKey
  have hBusiness' : j.businessId = request'.businessId := hBusiness.trans hSameBusiness.symm
  cases hAdjust : db.adjust sha256 request' adjustedAt ids with
  | error e =>
    dsimp only
    by_contra hNone
    rw [not_or, not_not, not_not] at hNone
    -- The same request would have been replayed, so an error means another one.
    obtain ⟨hAsked, hAdmits⟩ := hNone
    rw [adjust_replays adjustedAt ids hAdmits hSameKey hj hBusiness' hKey
      (hAsked.1.trans hDelta.symm) (hAsked.2.trans hReason.symm)] at hAdjust
    cases hAdjust
  | ok outcome =>
    obtain ⟨db', result⟩ := outcome
    dsimp only
    obtain ⟨digest', hDigest', hCases⟩ := adjust_cases hAdjust
    obtain rfl : digest = digest' := Except.ok.inj (hSameKey.symm.trans hDigest')
    -- A replay finds this adjustment; a new one would find its key unused.
    rcases hCases with ⟨rfl, existing, hMem, hOf, hOfKey, hAsked, hAskedReason, hResult⟩ |
      ⟨hUnused, -⟩
    · have hSame : existing = j := by
        refine Table.eq_of_clash hMem hj (decide_eq_true ⟨?_, ?_⟩)
        · rw [hOf, hBusiness']
        · rw [hOfKey, hKey]
      rw [hSame] at hAsked hAskedReason hResult
      refine ⟨⟨hAsked.symm.trans hDelta, hAskedReason.symm.trans hReason⟩, rfl, ?_⟩
      rw [hFirst, hResult]
      rfl
    · exact absurd hKey (hUnused j hj hBusiness')

end CreditDatabase

-- ---------------------------------------------------------------------------
-- Runs
-- ---------------------------------------------------------------------------

namespace AiDatabase

/-- No transaction but a new adjustment writes an adjustment. -/
theorem creditStep_adjustments (sha256 : List UInt8 → Str) (db : AiDatabase) (a : CreditAction) :
    (db.creditStep sha256 a).adjustments = db.adjustments ∨
      ∃ request digest result, db.AdjustsNew request digest
        (db.creditStep sha256 a).toCreditDatabase result := by
  -- Only an adjustment writes adjustments; each other transaction leaves them.
  cases a with
  | reserve scope key reservedAt accountId entryId =>
    refine .inl (commit_induction (P := fun t : CreditTables => t.adjustments = db.adjustments)
      rfl fun t _ h => ?_)
    obtain ⟨digest, -, ⟨rfl, -⟩ | ⟨-, hNew⟩⟩ := CreditTables.reserve_eq_ok h
    · rfl
    · obtain ⟨-, -, -, -, -, -, -, -, -, -, -, -, -, -, -, -, -, -, hRest, -⟩ := hNew
      rw [hRest]
  | consume scope entryId consumedAt =>
    refine .inl (commit_induction (P := fun t : CreditTables => t.adjustments = db.adjustments)
      rfl fun t _ h => ?_)
    rw [CreditTables.consume_frame h]
  | release scope entryId reason releasedAt =>
    refine .inl (commit_induction (P := fun t : CreditTables => t.adjustments = db.adjustments)
      rfl fun t _ h => ?_)
    rw [CreditTables.release_frame h]
  | failClaim scope loaded messageId entryId token code now =>
    refine .inl (commit_induction (P := fun t : AiDatabase => t.adjustments = db.adjustments)
      rfl fun t _ h => ?_)
    obtain ⟨row, -, ⟨rfl, -⟩ | ⟨-, hFails⟩⟩ := failClaim_eq_ok h
    · rfl
    · obtain ⟨-, -, -, -, -, -, -, -, -, -, hRest⟩ := hFails
      rw [hRest]
  | completeClaim scope loaded messageId entryId token generation now assistantId =>
    refine .inl (commit_induction (P := fun t : AiDatabase => t.adjustments = db.adjustments)
      rfl fun t _ h => ?_)
    obtain ⟨row, -, ⟨rfl, -⟩ | hCompletes⟩ := completeClaim_eq_ok h
    · rfl
    · obtain ⟨-, -, -, -, -, -, -, -, -, -, -, -, -, -, hRest⟩ := hCompletes
      rw [hRest]
  | adjust request adjustedAt ids =>
    refine commit_induction (P := fun t : CreditDatabase => t.adjustments = db.adjustments ∨
      ∃ request digest result, db.AdjustsNew request digest t result) (.inl rfl) fun t _ h => ?_
    obtain ⟨digest, -, ⟨rfl, -⟩ | ⟨-, hNew⟩⟩ := CreditDatabase.adjust_cases h
    · exact .inl rfl
    · exact .inr ⟨request, digest, _, hNew⟩
  | environment tables businesses conversations messages => exact .inl rfl

/-- **Step lemma.** Adjustments stay and belong to an account. -/
theorem creditStep_keeps (sha256 : List UInt8 → Str) (db : AiDatabase) (a : CreditAction)
    {j : AICreditAdjustmentLedgerEntry} (hj : j ∈ db.adjustments) :
    j ∈ (db.creditStep sha256 a).adjustments := by
  rcases creditStep_adjustments sha256 db a with hSame | ⟨request, digest, result, hNew⟩
  · rw [hSame]
    exact hj
  · exact (Table.mem_insert? hNew.inserts.1).mpr (.inr hj)

/-- Every transaction keeps the adjustments with their accounts. -/
theorem creditStep_owned (sha256 : List UInt8 → Str) (db : AiDatabase) (a : CreditAction)
    (h : db.AdjustmentsOwned) : (db.creditStep sha256 a).AdjustmentsOwned := by
  have hMove := creditStep_move sha256 db a
  intro j hj
  rcases creditStep_adjustments sha256 db a with hSame | ⟨request, digest, result, hNew⟩
  · rw [hSame] at hj
    exact h.of_move hMove hj
  · obtain ⟨adjustment, accounts, account, -, -, -, hOpen, hOwner, -, -, -, -, -, hAccounts,
      hAdjustments, -⟩ := hNew
    rcases (Table.mem_insert? hAdjustments).mp hj with rfl | hOld
    · have hWritten := (Table.mem_update?_iff hAccounts hOpen.mem rfl).mpr (.inl rfl)
      exact ⟨_, hWritten, hOwner.1.symm, hOwner.2.2.1.symm, hOwner.2.2.2.symm⟩
    · exact h.of_move hMove hOld

/-- **Adjustments of a run.** None is lost or rewritten. -/
theorem run_adjustments (sha256 : List UInt8 → Str) (db : AiDatabase) (as : List CreditAction)
    {j : AICreditAdjustmentLedgerEntry} (hj : j ∈ db.adjustments) :
    j ∈ (run (creditStep sha256) db as).adjustments :=
  run_invariant (I := fun s : AiDatabase => j ∈ s.adjustments)
    (fun s a h => creditStep_keeps sha256 s a h) hj as

/-- In every run each adjustment is of a stored account. -/
theorem run_owned (sha256 : List UInt8 → Str) (start : AiDatabase) (as : List CreditAction) :
    (run (creditStep sha256) start.withoutCredits as).AdjustmentsOwned :=
  run_invariant (I := fun s : AiDatabase => s.AdjustmentsOwned)
    (fun s a h => creditStep_owned sha256 s a h)
    (fun _ hj => absurd hj (Table.not_mem_empty _)) as

/-- **Adjustments, exactly once.** After every run: a key of a business has one adjustment; a
refused request changes nothing; a new adjustment leaves the limit of its account at the
limit of the plan plus all adjustments of the account, which covers what the account has
used; and every later request of the key, after any other transactions, is answered with
the same row and the same remaining credits when it asks for the same and its actor and
business are admitted, and is refused otherwise. -/
theorem adjustments_exactly_once (sha256 : List UInt8 → Str) (start : AiDatabase)
    (as : List CreditAction) :
    let db := run (creditStep sha256) start.withoutCredits as
    (∀ j ∈ db.adjustments, ∀ j' ∈ db.adjustments, j.businessId = j'.businessId →
      j.idempotencyKeyDigest = j'.idempotencyKeyDigest → j = j') ∧
      ∀ request adjustedAt ids,
        let after := db.creditStep sha256 (.adjust request adjustedAt ids)
        match db.adjust sha256 request adjustedAt ids with
        | .error _ => after = db
        | .ok (_, result) =>
          (result.replayed = true → after = db ∧ result.adjustment ∈ db.adjustments) ∧
            (result.replayed = false →
              CreditDatabase.Applied db.toCreditDatabase after.toCreditDatabase request
                result.adjustment) ∧
            ∀ bs, CreditDatabase.Answers sha256
              (run (creditStep sha256) after bs).toCreditDatabase request result := by
  intro db
  refine ⟨fun j hj j' hj' hBusiness hDigest => ?_, fun request adjustedAt ids => ?_⟩
  · exact Table.eq_of_clash hj hj' (decide_eq_true ⟨hBusiness, hDigest⟩)
  intro after
  -- The step commits what the request gives, or rolls back.
  have hAfter : after.toCreditDatabase =
      commit db.toCreditDatabase (db.adjust sha256 request adjustedAt ids) := rfl
  cases hAdjust : db.adjust sha256 request adjustedAt ids with
  | error e =>
    show { db with
      toCreditDatabase :=
        commit db.toCreditDatabase (db.adjust sha256 request adjustedAt ids) } = db
    rw [hAdjust]
    rfl
  | ok outcome =>
    obtain ⟨db', result⟩ := outcome
    rw [hAdjust] at hAfter
    have hDb : after.toCreditDatabase = db' := hAfter
    dsimp only
    refine ⟨fun hReplayed => ?_, fun hNew => ?_, fun bs => ?_⟩
    · obtain ⟨digest, -, ⟨rfl, existing, hMem, -, -, -, -, hResult⟩ | ⟨-, hApplied⟩⟩ :=
        CreditDatabase.adjust_cases hAdjust
      · refine ⟨?_, by rw [hResult]; exact hMem⟩
        show { db with toCreditDatabase := after.toCreditDatabase } = db
        rw [hDb]
      · rw [hApplied.inserts.2] at hReplayed
        cases hReplayed
    · obtain ⟨digest, -, ⟨-, existing, -, -, -, -, -, hResult⟩ | ⟨-, hApplied⟩⟩ :=
        CreditDatabase.adjust_cases hAdjust
      · rw [hResult] at hNew
        cases hNew
      · rw [hDb]
        exact hApplied.applied (run_owned sha256 start as)
    · obtain ⟨digest, hDigest, j, hj, hBusiness, hKey, hDelta, hReason, hFirst⟩ :=
        CreditDatabase.adjust_books hAdjust
      rw [← hDb] at hj
      exact CreditDatabase.answers_of_mem hDigest (run_adjustments sha256 after bs hj) hBusiness
        hKey hDelta hReason hFirst

end AiDatabase

end SpikeBackend
