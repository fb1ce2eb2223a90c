import SpikeBackend.Model.CodeRuns

/-!
# Tables of one-time codes

What the operations of a table of codes do to its rows, for both kinds of code.

* `validateOtp_eq_ok`, `validateOtp_eq_error` — an attempt that is accepted, and one that
  fails;
* `CodesAdvance` — rows are rewritten and none is lost; a code that is used stays used;
* `Holds` — attempts are bounded and an account has one unused code, with what keeps it.
-/

namespace SpikeBackend

open Relational Text

-- ---------------------------------------------------------------------------
-- Validation of one code
-- ---------------------------------------------------------------------------

namespace OneTimeCode

/-- The code may still be accepted. -/
structure IsOpen (max : Int) (c : OneTimeCode) (now : Datetime) : Prop where
  unused : c.usedAt = none
  unexpired : now < c.expiresAt
  attemptsLeft : c.attemptCount < max

/-- A failed attempt keeps what identifies the code and never reopens it, and it counts the
comparison that it made. -/
structure FailsTo (max : Int) (c : OneTimeCode) (failed : FailedAttempt OneTimeCode) : Prop where
  id : failed.left.id = c.id
  userId : failed.left.userId = c.userId
  otpHash : failed.left.otpHash = c.otpHash
  unused : failed.left.usedAt = none → c.usedAt = none
  counted : c.attemptCount + failed.compared.toList.count c.id ≤ failed.left.attemptCount
  compared : ∀ codeId ∈ failed.compared, codeId = c.id ∧ c.attemptCount < max

variable {settings : AuthSettings} {c : OneTimeCode} {failed : FailedAttempt OneTimeCode}
  {rawOtp : Str} {now : Datetime}

/-- An accepted code was open. -/
theorem validate_eq_ok (h : c.validate settings rawOtp now = .ok ()) :
    c.IsOpen settings.otpMaxAttempts now := by
  unfold validate at h
  split at h
  · cases h
  · next hOpen =>
    rw [not_or, Int.not_le] at hOpen
    split at h
    · cases h
    · next hLeft => exact ⟨by simpa using hOpen.1, hOpen.2, Int.not_le.mp hLeft⟩

/-- An attempt that closes the code, or leaves it closed, compares nothing. -/
theorem FailsTo.of_closed {max : Int} {left : OneTimeCode} (now : Datetime)
    (h : left = c ∨ left = c.markUsed now) : c.FailsTo max { left } := by
  have hCounted : c.attemptCount + (([] : List Uuid).count c.id : Int) ≤ c.attemptCount := by simp
  rcases h with rfl | rfl
  · exact ⟨rfl, rfl, rfl, fun hUnused => hUnused, hCounted, fun _ hNone => by cases hNone⟩
  · exact ⟨rfl, rfl, rfl, fun hUnused => (by cases hUnused), hCounted,
      fun _ hNone => by cases hNone⟩

/-- A failed validation fails the code. -/
theorem validate_eq_error (h : c.validate settings rawOtp now = .error failed) :
    c.FailsTo settings.otpMaxAttempts failed := by
  unfold validate at h
  split at h
  · obtain rfl := Except.error.inj h
    split
    · exact .of_closed now (.inr rfl)
    · exact .of_closed now (.inl rfl)
  · split at h
    · obtain rfl := Except.error.inj h
      exact .of_closed now (.inr rfl)
    · next hLeft =>
      split at h
      · cases h
      · -- the submitted code was compared with this one, and it was wrong
        dsimp only at h
        obtain rfl := Except.error.inj h
        have hCompared : ∀ codeId ∈ some c.id,
            codeId = c.id ∧ c.attemptCount < settings.otpMaxAttempts := by
          rintro codeId ⟨⟩
          exact ⟨rfl, Int.not_le.mp hLeft⟩
        split
        · refine ⟨rfl, rfl, rfl, fun hUnused => (by cases hUnused), ?_, hCompared⟩
          simp [markUsed]
        · refine ⟨rfl, rfl, rfl, fun hUnused => hUnused, ?_, hCompared⟩
          simp

end OneTimeCode

open CodeModel

section Tables

variable {ρ : Type} [Schema ρ Uuid] [CodeModel ρ] {settings : AuthSettings} {t t' : Table ρ}
  {failed : FailedAttempt (Table ρ)} {r r' : ρ} {userId : Uuid} {rawOtp : Str} {now : Datetime}

theorem eq_of_code_id (hr : r ∈ t) (hr' : r' ∈ t) (h : (code r).id = (code r').id) : r = r' := by
  refine Table.eq_of_key_eq hr hr' ?_
  rw [key_eq, key_eq, h]

/-- The active code of a user is an unused code of that user. -/
theorem activeOtp_eq_some (h : activeOtp t userId = some r) :
    r ∈ t ∧ (code r).userId = userId ∧ (code r).usedAt = none := by
  obtain ⟨hMem, hProp, -⟩ := Table.latest?_eq_some h
  rw [Bool.and_eq_true, beq_iff_eq, Option.isNone_iff_eq_none] at hProp
  exact ⟨hMem, hProp⟩

/-- An accepted attempt. -/
theorem validateOtp_eq_ok (h : validateOtp settings t userId rawOtp now = .ok r) :
    r ∈ t ∧ (code r).userId = userId ∧ (code r).IsOpen settings.otpMaxAttempts now := by
  unfold validateOtp at h
  split at h
  · cases h
  · next otp hActive =>
    obtain ⟨hMem, hUser, -⟩ := activeOtp_eq_some hActive
    split at h
    · cases h
    · next u hValid =>
      obtain rfl := Except.ok.inj h
      exact ⟨hMem, hUser, OneTimeCode.validate_eq_ok hValid⟩

-- ---------------------------------------------------------------------------
-- Rows that are rewritten
-- ---------------------------------------------------------------------------

/-- The rows of `t'` are those of `t`, some of them rewritten: no attempt is forgotten, the
attempts in `wrong` are counted, and a code that is used stays used. -/
structure CodesAdvance (t t' : Table ρ) (wrong : List Uuid) : Prop where
  rows : ∀ r' ∈ t', ∃ r ∈ t, (code r').id = (code r).id ∧ (code r').userId = (code r).userId ∧
    (code r).attemptCount + wrong.count (code r).id ≤ (code r').attemptCount ∧
    ((code r').usedAt = none → (code r).usedAt = none)
  kept : ∀ r ∈ t, ∃ r' ∈ t', (code r').id = (code r).id

/-- The code with this identifier is used. -/
def IsUsed (t : Table ρ) (id : Uuid) : Prop := ∃ r ∈ t, (code r).id = id ∧ (code r).usedAt ≠ none

theorem CodesAdvance.refl (t : Table ρ) : CodesAdvance t t [] where
  rows r hr := ⟨r, hr, rfl, rfl, by simp, id⟩
  kept r hr := ⟨r, hr, rfl⟩

/-- A used code stays used. -/
theorem CodesAdvance.isUsed {wrong : List Uuid} {id : Uuid} (h : CodesAdvance t t' wrong)
    (hUsed : IsUsed t id) : IsUsed t' id := by
  obtain ⟨r, hr, hId, hSpent⟩ := hUsed
  obtain ⟨r', hr', hId'⟩ := h.kept r hr
  refine ⟨r', hr', hId'.trans hId, fun hUnused => hSpent ?_⟩
  obtain ⟨x, hx, hSame, -, -, hBack⟩ := h.rows r' hr'
  have hEq : x = r := eq_of_code_id hx hr (hSame.symm.trans hId')
  rw [← hEq]
  exact hBack hUnused

/-- One row is rewritten. -/
theorem advance_of_update? {wrong : List Uuid} (hr : r ∈ t) (hId : (code r').id = (code r).id)
    (hUser : (code r').userId = (code r).userId)
    (hCount : (code r).attemptCount + wrong.count (code r).id ≤ (code r').attemptCount)
    (hBack : (code r').usedAt = none → (code r).usedAt = none)
    (hWrong : ∀ id ∈ wrong, id = (code r).id) (h : t.update? r' = some t') :
    CodesAdvance t t' wrong := by
  have hKey : Schema.key r = Schema.key r' := by rw [key_eq, key_eq, hId]
  constructor
  · intro x hx
    rcases (Table.mem_update? h).mp hx with ⟨rfl, -⟩ | ⟨hOld, hNe⟩
    · exact ⟨r, hr, hId, hUser, hCount, hBack⟩
    · refine ⟨x, hOld, rfl, rfl, ?_, id⟩
      -- Wrong guesses were at the updated code only.
      have hZero : wrong.count (code x).id = 0 := by
        rw [List.count_eq_zero]
        intro hMem
        refine hNe ?_
        rw [key_eq, key_eq, hWrong _ hMem, hId]
      rw [hZero]
      simp
  · intro x hx
    by_cases hSame : Schema.key x = Schema.key r'
    · refine ⟨r', Table.mem_update?_self h hr hKey, ?_⟩
      rw [← key_eq, ← key_eq, hSame]
    · exact ⟨x, (Table.mem_update?_of_ne h hSame).mpr hx, rfl⟩

/-- The codes of an account are closed. -/
theorem advance_invalidate (t : Table ρ) (userId : Uuid) (now : Datetime) :
    CodesAdvance t (invalidate t userId now) [] := by
  constructor
  · intro r' hr'
    obtain ⟨r, hr, rfl⟩ := Table.mem_map.mp hr'
    refine ⟨r, hr, ?_⟩
    rw [code_invalidated]
    split
    · refine ⟨rfl, rfl, by simp [OneTimeCode.markUsed], fun hMarked => ?_⟩
      cases hMarked
    · exact ⟨rfl, rfl, by simp, id⟩
  · intro r hr
    exact ⟨_, Table.mem_map.mpr ⟨r, hr, rfl⟩, (code_invalidated_fixed userId now r).1⟩

/-- After that the account has no unused code. -/
theorem used_of_invalidate (hr : r ∈ invalidate t userId now) (hUser : (code r).userId = userId) :
    (code r).usedAt ≠ none := by
  obtain ⟨x, hx, rfl⟩ := Table.mem_map.mp hr
  rw [code_invalidated] at hUser ⊢
  split at hUser
  · next hOpen =>
    rw [if_pos hOpen]
    exact Option.some_ne_none now
  · next hClosed =>
    rw [if_neg hClosed]
    exact fun hUnused => hClosed ⟨hUser, hUnused⟩

/-- A failed attempt rewrites the code it was made on, or nothing. -/
theorem validateOtp_error_cases (h : validateOtp settings t userId rawOtp now = .error failed) :
    failed = { left := t } ∨
      ∃ otp attempt, activeOtp t userId = some otp ∧
        (code otp).validate settings rawOtp now = .error attempt ∧
        t.update? (withCode otp attempt.left) = some failed.left ∧
        failed.compared = attempt.compared := by
  unfold validateOtp at h
  split at h
  · exact .inl (Except.error.inj h).symm
  · next otp hActive =>
    obtain ⟨hMem, -, -⟩ := activeOtp_eq_some hActive
    split at h
    · next attempt hAttempt =>
      have hFails := OneTimeCode.validate_eq_error hAttempt
      -- the rewritten row clashes with none that the old one did not clash with
      have hUpdate : ∃ saved, t.update? (withCode otp attempt.left) = some saved := by
        refine Table.exists_update? (fun x hx hNe => ?_) (checks_eq _)
        rw [key_eq, key_eq, code_withCode, hFails.id] at hNe
        have hApart := (t.apart_of_ne hx hMem fun hSame => hNe (by rw [hSame])).2
        rw [clash_eq] at hApart ⊢
        rw [code_withCode, hFails.otpHash]
        exact hApart
      obtain ⟨saved, hSaved⟩ := hUpdate
      obtain rfl := Except.error.inj h
      refine .inr ⟨otp, attempt, hActive, hAttempt, ?_, rfl⟩
      simp only [FailedAttempt.map, hSaved, Option.getD_some]
    · cases h

/-- A failed attempt counts the code it was compared with, and that one had an attempt left. -/
theorem validateOtp_eq_error (h : validateOtp settings t userId rawOtp now = .error failed) :
    CodesAdvance t failed.left failed.compared.toList ∧
      ∀ id ∈ failed.compared, ∃ r ∈ t, (code r).id = id ∧
        (code r).attemptCount < settings.otpMaxAttempts := by
  -- No active code, or the active one was looked at.
  rcases validateOtp_error_cases h with rfl | ⟨otp, attempt, hActive, hAttempt, hSaved, hCompared⟩
  · exact ⟨.refl t, fun id hId => by cases hId⟩
  · obtain ⟨hMem, -, -⟩ := activeOtp_eq_some hActive
    obtain ⟨hId, hUser, -, hBack, hCount, hOnly⟩ := OneTimeCode.validate_eq_error hAttempt
    rw [hCompared]
    refine ⟨?_, fun id hSome => ⟨otp, hMem, (hOnly id hSome).1.symm, (hOnly id hSome).2⟩⟩
    refine advance_of_update? hMem ?_ ?_ ?_ ?_ (fun id hSome => ?_) hSaved
    · rw [code_withCode]
      exact hId
    · rw [code_withCode]
      exact hUser
    · rw [code_withCode]
      exact hCount
    · rw [code_withCode]
      exact hBack
    · exact (hOnly id (Option.mem_toList.mp hSome)).1

-- ---------------------------------------------------------------------------
-- The codes of one kind
-- ---------------------------------------------------------------------------

end Tables

namespace CodeEvent

/-- The code of this kind that the event found wrong. -/
def wrongOf (kind : OtpKind) : CodeEvent → Option Uuid
  | .wrong k codeId => if k = kind then some codeId else none
  | _ => none

/-- The code of this kind that the event accepted. -/
def acceptedOf (kind : OtpKind) : CodeEvent → Option Uuid
  | .accepted k code _ => if k = kind then some code.id else none
  | .reset code _ => if kind = .passwordReset then some code.id else none
  | _ => none

/-- The code of this kind that the event used up. -/
def consumedOf (kind : OtpKind) : CodeEvent → Option Uuid
  | .accepted .emailVerification code _ =>
    if kind = .emailVerification then some code.id else none
  | .reset code _ => if kind = .passwordReset then some code.id else none
  | _ => none

end CodeEvent

/-- The comparisons of a log in which a code of this kind was wrong. -/
def wrongCodes (kind : OtpKind) (log : List CodeEvent) : List Uuid := log.filterMap (·.wrongOf kind)

/-- What holds of the codes of one kind, and of their log. -/
structure Holds {ρ : Type} [Schema ρ Uuid] [CodeModel ρ] (max : Int) (kind : OtpKind)
    (t : Table ρ) (log : List CodeEvent) : Prop where
  counted : ∀ r ∈ t, ((wrongCodes kind log).count (code r).id : Int) ≤ (code r).attemptCount
  bounded : ∀ id, ((wrongCodes kind log).count id : Int) ≤ max
  known : ∀ id ∈ wrongCodes kind log, ∃ r ∈ t, (code r).id = id
  single : ∀ r ∈ t, ∀ r' ∈ t, (code r).userId = (code r').userId → (code r).usedAt = none →
    (code r').usedAt = none → r = r'
  consumed : ∀ e ∈ log, ∀ id ∈ e.consumedOf kind, IsUsed t id

namespace Holds

variable {ρ : Type} [Schema ρ Uuid] [CodeModel ρ] {max : Int} {kind : OtpKind} {t t' : Table ρ}
  {log : List CodeEvent} {e : CodeEvent}

/-- At most one unused code of an account, after its rows were rewritten. -/
theorem single_advance {wrong : List Uuid} (h : Holds max kind t log)
    (hAdvance : CodesAdvance t t' wrong) : ∀ r ∈ t', ∀ r' ∈ t',
      (code r).userId = (code r').userId → (code r).usedAt = none → (code r').usedAt = none →
        r = r' := by
  intro r hr r' hr' hUser hUnused hUnused'
  obtain ⟨x, hx, hId, hOwner, -, hBack⟩ := hAdvance.rows r hr
  obtain ⟨x', hx', hId', hOwner', -, hBack'⟩ := hAdvance.rows r' hr'
  have hSame : x = x' := h.single x hx x' hx' (hOwner.symm.trans (hUser.trans hOwner'))
    (hBack hUnused) (hBack' hUnused')
  refine eq_of_code_id hr hr' ?_
  rw [hId, hId', hSame]

/-- A step that logs nothing. -/
theorem quiet (h : Holds max kind t log) (hAdvance : CodesAdvance t t' []) :
    Holds max kind t' log where
  counted r' hr' := by
    obtain ⟨r, hr, hId, -, hCount, -⟩ := hAdvance.rows r' hr'
    -- Without a wrong guess no count falls behind the log.
    have hOld := h.counted r hr
    rw [hId]
    simp only [List.count_nil] at hCount
    omega
  bounded := h.bounded
  known id hMem := by
    obtain ⟨r, hr, hId⟩ := h.known id hMem
    obtain ⟨r', hr', hId'⟩ := hAdvance.kept r hr
    exact ⟨r', hr', hId'.trans hId⟩
  single := h.single_advance hAdvance
  consumed e he id hMem := hAdvance.isUsed (h.consumed e he id hMem)

/-- An event that finds no code of this kind wrong. -/
theorem logged (h : Holds max kind t log) (hWrong : e.wrongOf kind = none)
    (hConsumed : ∀ id ∈ e.consumedOf kind, IsUsed t id) : Holds max kind t (e :: log) := by
  -- The event is no wrong guess at a code of this kind.
  have hCodes : wrongCodes kind (e :: log) = wrongCodes kind log := by
    unfold wrongCodes
    rw [List.filterMap_cons, hWrong]
  refine ⟨?_, ?_, ?_, h.single, ?_⟩
  · rw [hCodes]
    exact h.counted
  · rw [hCodes]
    exact h.bounded
  · rw [hCodes]
    exact h.known
  · intro e' he'
    rcases List.mem_cons.mp he' with rfl | hOld
    · exact hConsumed
    · exact h.consumed e' hOld

/-- A wrong code was compared and counted. -/
theorem wrong {id : Uuid} (h : Holds max kind t log) (hAdvance : CodesAdvance t t' [id])
    (hLeft : ∃ r ∈ t, (code r).id = id ∧ (code r).attemptCount < max) :
    Holds max kind t' (.wrong kind id :: log) := by
  have hCodes : wrongCodes kind (.wrong kind id :: log) = id :: wrongCodes kind log := by
    unfold wrongCodes
    rw [List.filterMap_cons]
    simp [CodeEvent.wrongOf]
  refine ⟨?_, ?_, ?_, h.single_advance hAdvance, ?_⟩
  · intro r' hr'
    obtain ⟨r, hr, hId, -, hCount, -⟩ := hAdvance.rows r' hr'
    have hOld := h.counted r hr
    rw [List.count_singleton] at hCount
    rw [hCodes, hId, List.count_cons, Int.natCast_add]
    omega
  · intro id'
    rw [hCodes]
    -- This code had attempts left before the guess; the others were not guessed at.
    by_cases hSame : id = id'
    · obtain ⟨r, hr, hId, hFew⟩ := hLeft
      have hOld := h.counted r hr
      rw [← hSame, List.count_cons_self]
      rw [hId] at hOld
      push_cast
      omega
    · rw [List.count_cons_of_ne hSame]
      exact h.bounded id'
  · intro id' hMem
    rw [hCodes] at hMem
    have hOld : ∃ r ∈ t, (code r).id = id' := by
      rcases List.mem_cons.mp hMem with rfl | hOld
      · obtain ⟨r, hr, hId, -⟩ := hLeft
        exact ⟨r, hr, hId⟩
      · exact h.known id' hOld
    obtain ⟨r, hr, hId⟩ := hOld
    obtain ⟨r', hr', hId'⟩ := hAdvance.kept r hr
    exact ⟨r', hr', hId'.trans hId⟩
  · intro e he id' hMem
    rcases List.mem_cons.mp he with rfl | hOld
    · cases hMem
    · exact hAdvance.isUsed (h.consumed e hOld id' hMem)

/-- A new code, after the others of its account were closed. -/
theorem issued {fresh : OneTimeCode} {now : Datetime} (h : Holds max kind t log)
    (hCount : fresh.attemptCount = 0)
    (hInsert : (invalidate t fresh.userId now).insert? (ofCode fresh) = some t') :
    Holds max kind t' log := by
  have hOld : Holds max kind (invalidate t fresh.userId now) log :=
    h.quiet (advance_invalidate t fresh.userId now)
  have hMem : ∀ {r : ρ}, r ∈ t' ↔ r = ofCode fresh ∨ r ∈ invalidate t fresh.userId now :=
    Table.mem_insert? hInsert
  refine ⟨?_, hOld.bounded, ?_, ?_, ?_⟩
  · intro r hr
    rcases hMem.mp hr with rfl | hr
    · -- the identifier is new, so nothing was compared with it
      rw [code_ofCode, hCount]
      have hZero : (wrongCodes kind log).count fresh.id = 0 := by
        rw [List.count_eq_zero]
        intro hKnown
        obtain ⟨x, hx, hId⟩ := hOld.known fresh.id hKnown
        refine (Table.apart_of_insert? hInsert hx).1 ?_
        rw [key_eq, key_eq, code_ofCode, hId]
      rw [hZero]
      exact le_refl 0
    · exact hOld.counted r hr
  · intro id hKnown
    obtain ⟨r, hr, hId⟩ := hOld.known id hKnown
    exact ⟨r, hMem.mpr (.inr hr), hId⟩
  · intro r hr r' hr' hUser hUnused hUnused'
    rcases hMem.mp hr with rfl | hr
    · rcases hMem.mp hr' with rfl | hr'
      · rfl
      · rw [code_ofCode] at hUser
        exact absurd hUnused' (used_of_invalidate hr' hUser.symm)
    · rcases hMem.mp hr' with rfl | hr'
      · rw [code_ofCode] at hUser
        exact absurd hUnused (used_of_invalidate hr hUser)
      · exact hOld.single r hr r' hr' hUser hUnused hUnused'
  · intro e he id hConsumed
    obtain ⟨r, hr, hId, hUsed⟩ := hOld.consumed e he id hConsumed
    exact ⟨r, hMem.mpr (.inr hr), hId, hUsed⟩

end Holds

/-- An issue closes the user's open codes and inserts a fresh one. -/
theorem issueOtp_eq_some {ρ : Type} [Schema ρ Uuid] [CodeModel ρ] {settings : AuthSettings}
    {t t' : Table ρ} {userId : Uuid} {expiresInMinutes : Int} {enforce : Bool} {now : Datetime}
    {draws : OtpDraws}
    (h : issueOtp settings t userId expiresInMinutes enforce now draws = some t') :
    ∃ fresh : OneTimeCode, fresh.id = draws.id ∧ fresh.userId = userId ∧ fresh.attemptCount = 0 ∧
      (invalidate t fresh.userId now).insert? (ofCode fresh) = some t' := by
  unfold issueOtp at h
  split at h
  · cases h
  · refine ⟨⟨draws.id, userId, draws.createdAt, draws.otpHash, now + minutes expiresInMinutes, 0,
      none⟩, rfl, rfl, rfl, h⟩

end SpikeBackend
