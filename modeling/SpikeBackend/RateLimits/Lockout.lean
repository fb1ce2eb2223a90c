import SpikeBackend.RateLimits.Counters

/-!
# Counters that never run out

A counter gets its time to live by a second command. A request that stops between the two, or whose
second command fails, leaves a counter that counts on for good.

* `EndlessInvariant` — behind a counter without a time to live there is such a request;
* `stuck_step` — nothing gives the counter a time to live afterwards;
* `locked_out_for_good` — when, and only when, the requests under a key never pass again.
-/

namespace SpikeBackend

open Text Outcome Remote Program FixedWindow

variable {sha256 : Str → Str} {settings : RateLimitSettings}

namespace RateState

-- ---------------------------------------------------------------------------
-- Who has left a counter without a time to live
-- ---------------------------------------------------------------------------

section

variable (sha256 settings) (s : RateState)

/-- A request that a counter has counted first. What the counter has counted are as many of the last
requests as its count, so the first of them is that many steps back in the history. -/
def CountedFirst (key : Str) (history : List Numbered) (count : Nat) (r : RateRequest) : Prop :=
  r.key sha256 = key ∧
    ∃ e, r.numbered = some e ∧ e.number = 1 ∧ history[count - 1]? = some e

/-- The first request that a counter has counted, which has not set its time to live: it has yet to
do so, or it has failed. -/
def Leaves (key : Str) (history : List Numbered) (count : Nat) (r : RateRequest) : Prop :=
  CountedFirst sha256 key history count r ∧
    (r.program.outcome? = none ∨
      r.program = .done (.error (r.limiter settings).serviceUnavailable))

/-- Behind every counter without a time to live there is such a request. -/
def EndlessInvariant : Prop :=
  ∀ (target : RateTarget) (c : RedisCounter), s.redis.counters (target.key sha256) = some c →
    c.expiresAt = none → ∃ r ∈ s.requests,
      Leaves sha256 settings (target.key sha256) (s.history (target.key sha256)) c.count r

end

variable {s : RateState} {r r' : RateRequest} {i : Nat} {redis : RedisCounters}
  {number : Option Numbered}

/-- Another request stays. -/
theorem mem_set_of_ne {w : RateRequest} (hGet : s.requests[i]? = some r) (h : w ∈ s.requests)
    (hOther : w ≠ r) : w ∈ s.requests.set i r' := by
  obtain ⟨before, after, hSplit, hSet⟩ := exists_split hGet
  rw [hSet]
  rw [hSplit] at h
  rcases List.mem_append.mp h with hBefore | hRest
  · exact List.mem_append_left _ hBefore
  · rcases List.mem_cons.mp hRest with rfl | hAfter
    · exact absurd rfl hOther
    · exact List.mem_append_right _ (List.mem_cons_of_mem _ hAfter)

theorem mem_set_self (hGet : s.requests[i]? = some r) : r' ∈ s.requests.set i r' := by
  obtain ⟨before, after, -, hSet⟩ := exists_split hGet
  rw [hSet]
  exact List.mem_append_right _ List.mem_cons_self

/-- A counter without a time to live is there. -/
theorem live_of_endless {redis : RedisCounters} {key : Str} {c : RedisCounter}
    (h : redis.counters key = some c) (hEndless : c.expiresAt = none) : redis.live key = some c :=
  RedisCounters.live_eq_some.mpr ⟨h, fun t ht => by
    rw [hEndless] at ht
    cases ht⟩

/-- The history of a key after a step of a request: its number is put in front. -/
theorem history_update (s : RateState) (r : RateRequest) (number : Option Numbered)
    (target : RateTarget) :
    Function.update s.history (r.key sha256) (number.toList ++ s.history (r.key sha256))
      (target.key sha256) =
        (if target.key sha256 = r.key sha256 then number.toList else []) ++
          s.history (target.key sha256) := by
  rw [Function.update_apply]
  split
  · next hSame => rw [hSame]
  · rfl

/-- The requests that leave a counter, when one of them takes a step. -/
theorem Advanced.leaves (h : s.Advanced sha256 settings r redis r' number)
    (hGet : s.requests[i]? = some r) (hRate : s.RateInvariant sha256 settings)
    (hInv : s.EndlessInvariant sha256 settings) (target : RateTarget) {c : RedisCounter}
    (hc : redis.counters (target.key sha256) = some c) (hEndless : c.expiresAt = none) :
    ∃ w ∈ s.requests.set i r', Leaves sha256 settings (target.key sha256)
      ((if target.key sha256 = r.key sha256 then number.toList else []) ++
        s.history (target.key sha256)) c.count w := by
  -- a request behind the old counter stays behind it, unless it is the one that takes a step
  have hOld : ∀ (c : RedisCounter) history count,
      s.redis.counters (target.key sha256) = some c → c.expiresAt = none →
      history[count - 1]? = (s.history (target.key sha256))[c.count - 1]? →
      (Leaves sha256 settings (target.key sha256) (s.history (target.key sha256)) c.count r →
        Leaves sha256 settings (target.key sha256) (s.history (target.key sha256)) c.count r') →
      ∃ w ∈ s.requests.set i r', Leaves sha256 settings (target.key sha256) history count w := by
    intro c history count hc hEndless hBack hStep
    obtain ⟨w, hw, hLeaves⟩ := hInv target c hc hEndless
    by_cases hSame : w = r
    · refine ⟨r', mem_set_self hGet, ?_⟩
      have hLeaves' := hStep (hSame ▸ hLeaves)
      rwa [Leaves, CountedFirst, ← hBack] at hLeaves'
    · refine ⟨w, mem_set_of_ne hGet hw hSame, ?_⟩
      rwa [Leaves, CountedFirst, ← hBack] at hLeaves
  have hNothing : (if target.key sha256 = r.key sha256 then (none : Option Numbered).toList
      else []) ++ s.history (target.key sha256) = s.history (target.key sha256) := by
    split <;> rfl
  cases h with
  | idle hDone =>
    rw [hNothing]
    exact hOld c _ _ hc hEndless rfl id
  | refused hFirst =>
    rw [hNothing]
    exact hOld c _ _ hc hEndless rfl fun hLeaves => ⟨hLeaves.1, .inr rfl⟩
  | counted e p hFirst hWaiting hTime hNumber hProgram =>
    have hNone : ∀ history count, ¬ Leaves sha256 settings (target.key sha256) history count r := by
      rintro history count ⟨⟨-, e', hSome, -⟩, -⟩
      rw [hWaiting] at hSome
      cases hSome
    by_cases hKey : target.key sha256 = r.key sha256
    · rw [if_pos hKey]
      rw [hKey, RedisCounters.incr_counters_self] at hc
      obtain rfl := Option.some.inj hc
      cases hLive : s.redis.live (r.key sha256) with
      | none =>
        -- a new counter, which the request begins
        rw [RedisCounters.nextCount_of_none hLive] at hNumber ⊢
        refine ⟨_, mem_set_self hGet, ⟨hKey.symm, e, rfl, hNumber, rfl⟩, ?_⟩
        rcases hProgram with rfl | rfl
        · exact .inr rfl
        · rw [hNumber]
          exact .inl rfl
      | some old =>
        -- the old counter, whose first request is one step further back
        have hOldEndless : old.expiresAt = none := by
          rw [hLive] at hEndless
          exact hEndless
        have hCounter : s.redis.counters (target.key sha256) = some old := by
          rw [hKey]
          exact (RedisCounters.live_eq_some.mp hLive).1
        refine hOld old _ _ hCounter hOldEndless ?_ fun hLeaves => absurd hLeaves (hNone _ _)
        have hPositive : 1 ≤ old.count := ((hRate.counters target).last old hCounter).1
        rw [RedisCounters.nextCount_of_some hLive, Nat.add_sub_cancel, Option.toList_some,
          List.singleton_append, List.getElem?_cons, if_neg (by omega)]
    · rw [if_neg hKey]
      rw [RedisCounters.incr_counters_of_ne hKey] at hc
      exact hOld c _ _ hc hEndless rfl fun hLeaves => absurd hLeaves (hNone _ _)
  | expired e p hFirst hExpiring hOne hOpen hProgram =>
    by_cases hKey : target.key sha256 = r.key sha256
    · rw [hKey] at hc
      rcases @RedisCounters.expire_counters_self s.redis (r.key sha256)
        (r.limiter settings).window with ⟨hGone, hSame⟩ | ⟨old, -, hSet⟩
      · rw [live_of_endless (hSame.symm.trans hc) hEndless] at hGone
        cases hGone
      · obtain rfl := Option.some.inj (hSet.symm.trans hc)
        cases hEndless
    · rw [hNothing]
      rw [RedisCounters.expire_counters_of_ne _ hKey] at hc
      exact hOld c _ _ hc hEndless rfl fun hLeaves => absurd hLeaves.1.1.symm hKey

/-- Every step keeps a request for each endless counter. -/
theorem EndlessInvariant.step (hRate : s.RateInvariant sha256 settings)
    (hInv : s.EndlessInvariant sha256 settings) (a : RateAction) :
    (s.step sha256 settings a).EndlessInvariant sha256 settings := by
  cases a with
  | arrive target messageExists =>
    intro target' c hc hEndless
    obtain ⟨w, hw, hLeaves⟩ := hInv target' c hc hEndless
    exact ⟨w, List.mem_append_left _ hw, hLeaves⟩
  | pass duration => exact hInv
  | call i fate =>
    cases hGet : s.requests[i]? with
    | none =>
      rw [step_call_of_none hGet]
      exact hInv
    | some r =>
      rw [step_call hGet]
      split
      · exact hInv
      · have hShape := hRate.shapes r (List.mem_of_getElem? hGet)
        have hCase := @advance_cases sha256 settings s r hShape fate
        intro target c hc hEndless
        show ∃ w ∈ _, Leaves sha256 settings (target.key sha256) (Function.update s.history
          (r.key sha256) ((s.numbers sha256 r fate).toList ++ s.history (r.key sha256))
            (target.key sha256)) c.count w
        rw [history_update]
        exact hCase.leaves hGet hRate hInv target hc hEndless
  | stop i =>
    cases hGet : s.requests[i]? with
    | none =>
      rw [step_stop_of_none hGet]
      exact hInv
    | some r =>
      rw [step_stop hGet]
      intro target c hc hEndless
      obtain ⟨w, hw, hLeaves⟩ := hInv target c hc hEndless
      -- A process that stops leaves its counter as it is.
      by_cases hSame : w = r
      · exact ⟨_, mem_set_self hGet, hSame ▸ hLeaves⟩
      · exact ⟨w, mem_set_of_ne hGet hw hSame, hLeaves⟩

-- ---------------------------------------------------------------------------
-- A counter that nobody will give a time to live
-- ---------------------------------------------------------------------------

section

variable (sha256 settings) (s : RateState)

/-- The counter of a key has no time to live, nobody is about to set it, and the counter has gone
past a number, as have the requests that arrived after the first few. -/
structure Stuck (key : Str) (first count : Nat) : Prop where
  counter : ∃ c, s.redis.counters key = some c ∧ c.expiresAt = none ∧ count ≤ c.count ∧ 1 ≤ c.count
  expiring : ∀ r ∈ s.requests, r.key sha256 = key → ¬ r.IsExpiring
  later : ∀ i r, first ≤ i → s.requests[i]? = some r → r.key sha256 = key →
    ∀ e, r.numbered = some e → count < e.number

/-- The counter of a target has reached the limit, and is stuck. -/
def LockedOut (target : RateTarget) : Prop :=
  ∃ c, s.redis.counters (target.key sha256) = some c ∧ c.expiresAt = none ∧
    (target.limiter settings).limit ≤ c.count ∧
      ∀ r ∈ s.requests, r.key sha256 = target.key sha256 → ¬ r.IsExpiring

end

variable {key : Str} {first count : Nat}

/-- A counter that is stuck stays so when a request takes a step. -/
theorem Stuck.advanced (hStuck : s.Stuck sha256 key first count)
    (h : s.Advanced sha256 settings r redis r' number) (hMem : r ∈ s.requests)
    (hOpen : r.stopped = false) (hKey : r.key sha256 = key) :
    (∃ c, redis.counters key = some c ∧ c.expiresAt = none ∧ count ≤ c.count ∧ 1 ≤ c.count) ∧
      ¬ r'.IsExpiring ∧ (r'.numbered = r.numbered ∨ ∃ e, r'.numbered = some e ∧ count < e.number) := by
  have hOld := hStuck.expiring r hMem hKey
  cases h with
  | idle hDone => exact ⟨hStuck.counter, hOld, .inl rfl⟩
  | refused hFirst =>
    exact ⟨hStuck.counter, fun hExpiring => Option.some_ne_none _ hExpiring.2.2, .inl rfl⟩
  | counted e p hFirst hWaiting hTime hNumber hProgram =>
    obtain ⟨c, hc, hEndless, hCount, hPositive⟩ := hStuck.counter
    have hLive := live_of_endless hc hEndless
    rw [hKey, RedisCounters.nextCount_of_some hLive] at hNumber
    refine ⟨⟨⟨s.redis.nextCount key, (s.redis.live key).bind RedisCounter.expiresAt⟩, ?_, ?_, ?_⟩,
      ?_, .inr ⟨e, rfl, by omega⟩⟩
    · rw [hKey]
      exact RedisCounters.incr_counters_self
    · show (s.redis.live key).bind RedisCounter.expiresAt = none
      rw [hLive]
      exact hEndless
    · show count ≤ s.redis.nextCount key ∧ 1 ≤ s.redis.nextCount key
      rw [RedisCounters.nextCount_of_some hLive]
      omega
    · rintro ⟨-, -, hNotDone⟩
      -- The number is too large to be the first, so no time to live is set.
      rcases hProgram with rfl | rfl
      · exact Option.some_ne_none _ hNotDone
      · rw [RateLimiter.afterCount_of_ne _ _ (by omega)] at hNotDone
        exact Option.some_ne_none _ hNotDone
  | expired e p hFirst hExpiring hOne hNotDone hProgram =>
    exact absurd ⟨hOpen, by rw [hExpiring]; rfl, hNotDone⟩ hOld

/-- Requests under other keys. -/
theorem Advanced.counters_of_ne (h : s.Advanced sha256 settings r redis r' number)
    (hKey : r.key sha256 ≠ key) : redis.counters key = s.redis.counters key := by
  cases h with
  | idle | refused => rfl
  | counted => exact RedisCounters.incr_counters_of_ne hKey.symm
  | expired => exact RedisCounters.expire_counters_of_ne _ hKey.symm

/-- A step of one request leaves a stuck key stuck. -/
theorem Stuck.of_set {t : RateState} (hStuck : s.Stuck sha256 key first count)
    (hGet : s.requests[i]? = some r) (hRequests : t.requests = s.requests.set i r')
    (hKey : r'.key sha256 = r.key sha256)
    (hCounter : ∃ c, t.redis.counters key = some c ∧ c.expiresAt = none ∧ count ≤ c.count ∧
      1 ≤ c.count)
    (hStep : r.key sha256 = key → ¬ r'.IsExpiring ∧
      (r'.numbered = r.numbered ∨ ∃ e, r'.numbered = some e ∧ count < e.number)) :
    t.Stuck sha256 key first count where
  counter := hCounter
  expiring w hw hSame := by
    rw [hRequests] at hw
    -- The request that moved, and the others.
    rcases List.mem_or_eq_of_mem_set hw with hOld | rfl
    · exact hStuck.expiring w hOld hSame
    · exact (hStep (hKey ▸ hSame)).1
  later j w hFirst hw hSame e he := by
    rw [hRequests, List.getElem?_set] at hw
    split at hw
    · next hHere =>
      subst hHere
      split at hw
      · obtain rfl := Option.some.inj hw
        rcases (hStep (hKey ▸ hSame)).2 with hNumber | ⟨e', he', hCount⟩
        · exact hStuck.later i r hFirst hGet (hKey ▸ hSame) e (hNumber ▸ he)
        · obtain rfl := Option.some.inj (he'.symm.trans he)
          exact hCount
      · cases hw
    · exact hStuck.later j w hFirst hw hSame e he

/-- Every step leaves a stuck key stuck. -/
theorem stuck_step (hRate : s.RateInvariant sha256 settings)
    (hStuck : s.Stuck sha256 key first count) (a : RateAction) :
    (s.step sha256 settings a).Stuck sha256 key first count := by
  cases a with
  | arrive target messageExists =>
    refine ⟨hStuck.counter, fun r hr hKey => ?_, fun i r hFirst hr hKey e he => ?_⟩
    · rcases List.mem_append.mp hr with hOld | hNew
      · exact hStuck.expiring r hOld hKey
      · obtain rfl := List.mem_singleton.mp hNew
        exact fun hExpiring => Bool.false_ne_true hExpiring.2.1
    · have hGet : (s.requests ++ [_])[i]? = some r := hr
      rw [List.getElem?_append] at hGet
      split at hGet
      · exact hStuck.later i r hFirst hGet hKey e he
      · obtain rfl := List.mem_singleton.mp (List.mem_of_getElem? hGet)
        cases he
  | pass duration => exact ⟨hStuck.counter, hStuck.expiring, hStuck.later⟩
  | call i fate =>
    cases hGet : s.requests[i]? with
    | none =>
      rw [step_call_of_none hGet]
      exact hStuck
    | some r =>
      rw [step_call hGet]
      split
      · exact hStuck
      · next hOpen =>
        have hMem := List.mem_of_getElem? hGet
        have hCase := @advance_cases sha256 settings s r (hRate.shapes r hMem) fate
        have hAdvanced := fun hKey =>
          hStuck.advanced hCase hMem (Bool.eq_false_iff.mpr hOpen) hKey
        refine hStuck.of_set hGet rfl hCase.key_eq ?_ fun hKey => (hAdvanced hKey).2
        -- Only a request of this key touches its counter.
        by_cases hKey : r.key sha256 = key
        · exact (hAdvanced hKey).1
        · have hSame := hCase.counters_of_ne hKey
          obtain ⟨c, hc, hRest⟩ := hStuck.counter
          exact ⟨c, hSame.trans hc, hRest⟩
  | stop i =>
    cases hGet : s.requests[i]? with
    | none =>
      rw [step_stop_of_none hGet]
      exact hStuck
    | some r =>
      rw [step_stop hGet]
      exact hStuck.of_set hGet rfl rfl hStuck.counter fun _ =>
        ⟨fun hExpiring => Bool.false_ne_true hExpiring.1.symm, .inl rfl⟩

-- ---------------------------------------------------------------------------
-- A request that passes
-- ---------------------------------------------------------------------------

/-- A request that passes, of those that arrive later on. -/
def Served (sha256 : Str → Str) (settings : RateLimitSettings) (s : RateState) (key : Str) : Prop :=
  ∃ more i r, s.requests.length ≤ i ∧
    (Machine.run (step sha256 settings) s more).requests[i]? = some r ∧ r.key sha256 = key ∧
      r.isRepeat = false ∧ r.passed = true

/-- What is served after a step is served before it. -/
theorem Served.of_step {a : RateAction} (h : (s.step sha256 settings a).Served sha256 settings key)
    (hLength : s.requests.length ≤ (s.step sha256 settings a).requests.length) :
    s.Served sha256 settings key := by
  obtain ⟨more, i, r, hIndex, hRun⟩ := h
  exact ⟨a :: more, i, r, hLength.trans hIndex, hRun⟩

/-- The next command of the last request. -/
theorem call_last {before : List RateRequest} (h : s.requests = before ++ [r])
    (hOpen : r.stopped = false) (fate : Fate) :
    s.step sha256 settings (.call before.length fate) = s.advance sha256 before.length r fate ∧
      (s.advance sha256 before.length r fate).requests = before ++
        [{ r with
            program := (r.program.advance s.redis fate).1
            numbered := r.numbered.or (s.numbers sha256 r fate) }] := by
  have hGet : s.requests[before.length]? = some r := by
    rw [h]
    exact List.getElem?_concat_length
  refine ⟨?_, ?_⟩
  · rw [step_call hGet, hOpen]
    rfl
  · show s.requests.set before.length _ = _
    -- The new request is the last one.
    rw [h, List.set_append_right _ _ le_rfl, Nat.sub_self]
    rfl

/-- A run whose new request passes serves its key. -/
theorem served_of_requests {more : List RateAction} {before : List RateRequest}
    (hRun : (Machine.run (step sha256 settings) s more).requests = before ++ [r])
    (hLength : before.length = s.requests.length) (hKey : r.key sha256 = key)
    (hFirst : r.isRepeat = false) (hProgram : r.program = .done (.ok ())) :
    s.Served sha256 settings key := by
  refine ⟨more, before.length, r, hLength.ge, ?_, hKey, hFirst, ?_⟩
  · rw [hRun]
    exact List.getElem?_concat_length
  · rw [RateRequest.passed, hProgram]
    rfl

/-- A request that arrives and is counted within the limit. -/
theorem served_of_count {target : RateTarget}
    (hCount : (s.redis.nextCount (target.key sha256) : Int) ≤ (target.limiter settings).requests) :
    s.Served sha256 settings (target.key sha256) := by
  let program := target.enforceDependency sha256 settings false
  have hProgram : program = (target.limiter settings).enforce (target.key sha256) := by
    cases target <;> rfl
  have hFirst : ∀ (p : Program RedisCounters HttpException Unit) (numbered : Option Numbered),
      (⟨target, false, p, numbered, false⟩ : RateRequest).isRepeat = false := by
    cases target <;> exact fun _ _ => rfl
  have hNext : (program.advance s.redis .answered).1 =
      (target.limiter settings).afterCount (target.key sha256)
        (s.redis.nextCount (target.key sha256)) := by
    rw [hProgram, RateLimiter.enforce_eq]
    rfl
  -- it arrives, and it is counted
  let arrived := s.step sha256 settings (.arrive target false)
  have hArrived : arrived.requests = s.requests ++ [⟨target, false, program, none, false⟩] := rfl
  obtain ⟨hCall, hCalled⟩ := @call_last sha256 settings arrived _ _ hArrived rfl .answered
  rw [← hCall] at hCalled
  by_cases hOne : s.redis.nextCount (target.key sha256) = 1
  · -- it sets the time to live
    rw [hOne] at hNext hCount
    obtain ⟨hLast, hAnswered⟩ := @call_last sha256 settings _ _ _ hCalled rfl .answered
    rw [← hLast] at hAnswered
    refine @served_of_requests sha256 settings s _ _ [.arrive target false,
      .call s.requests.length .answered, .call s.requests.length .answered] s.requests hAnswered rfl
      rfl (hFirst _ _) ?_
    show ((program.advance s.redis .answered).1.advance _ .answered).1 = _
    rw [hNext, RateLimiter.afterCount_one]
    show Program.done (ensure (((1 : Nat) : Int) ≤ (target.limiter settings).requests) _) = _
    rw [ensure_pos hCount]
  · refine @served_of_requests sha256 settings s _ _ [.arrive target false,
      .call s.requests.length .answered] s.requests hCalled rfl rfl (hFirst _ _) ?_
    show (program.advance s.redis .answered).1 = _
    rw [hNext, RateLimiter.afterCount_of_ne _ _ hOne, ensure_pos hCount]

/-- A counter that runs out. -/
theorem served_of_expiresAt {target : RateTarget} {c : RedisCounter} {t : Datetime}
    (hRequests : 0 < (target.limiter settings).requests)
    (hCounter : s.redis.counters (target.key sha256) = some c) (hTime : c.expiresAt = some t) :
    s.Served sha256 settings (target.key sha256) := by
  refine Served.of_step (a := .pass (t - s.redis.now).toNat) ?_ le_rfl
  refine served_of_count ?_
  -- Wait until the counter expires; the next request is the first of its window.
  have hGone : (s.step sha256 settings (.pass (t - s.redis.now).toNat)).redis.live
      (target.key sha256) = none := by
    refine RedisCounters.live_eq_none.mpr fun c' hc' => ?_
    obtain rfl := Option.some.inj (hCounter.symm.trans hc')
    refine ⟨t, hTime, ?_⟩
    show t ≤ s.redis.now + ((t - s.redis.now).toNat : Int)
    have hSpan := Int.self_le_toNat (t - s.redis.now)
    exact sub_le_iff_le_add'.mp hSpan
  rw [RedisCounters.nextCount_of_none hGone]
  exact hRequests

/-- A counter whose time to live is about to be set. -/
theorem served_of_expiring {target : RateTarget} {c : RedisCounter}
    (hRate : s.RateInvariant sha256 settings)
    (hRequests : 0 < (target.limiter settings).requests)
    (hCounter : s.redis.counters (target.key sha256) = some c) (hEndless : c.expiresAt = none)
    (hMem : r ∈ s.requests) (hKey : r.key sha256 = target.key sha256)
    (hExpiring : r.IsExpiring) : s.Served sha256 settings (target.key sha256) := by
  obtain ⟨i, hGet⟩ := List.mem_iff_getElem?.mp hMem
  -- The request that waits gives the counter its time to live after all.
  have hProgram := (hRate.shapes r hMem).program_of_expiring hExpiring
  have hStep : s.step sha256 settings (.call i .answered) = s.advance sha256 i r .answered := by
    rw [step_call hGet, hExpiring.1]
    rfl
  have hRedis : (s.step sha256 settings (.call i .answered)).redis =
      s.redis.expire (r.key sha256) (r.limiter settings).window := by
    rw [hStep]
    show (r.program.advance s.redis .answered).2 = _
    rw [hProgram, RateLimiter.afterCount_one]
    rfl
  have hLength : s.requests.length =
      (s.step sha256 settings (.call i .answered)).requests.length := by
    rw [hStep]
    exact List.length_set.symm
  refine Served.of_step ?_ hLength.le
  rcases @RedisCounters.expire_counters_self s.redis (r.key sha256) (r.limiter settings).window with
    ⟨hGone, -⟩ | ⟨old, -, hSet⟩
  · rw [hKey, live_of_endless hCounter hEndless] at hGone
    cases hGone
  · rw [← hRedis, hKey] at hSet
    exact served_of_expiresAt hRequests hSet rfl

-- ---------------------------------------------------------------------------
-- Whole runs
-- ---------------------------------------------------------------------------

/-- In every run each endless counter has the request that left it. -/
theorem run_endlessInvariant (now : Datetime) (actions : List RateAction) :
    (Machine.run (step sha256 settings) (init now) actions).EndlessInvariant sha256 settings := by
  have hBoth := Machine.run_invariant
    (I := fun s : RateState => s.RateInvariant sha256 settings ∧ s.EndlessInvariant sha256 settings)
    (fun _ a hInv => ⟨hInv.1.step a, hInv.2.step hInv.1 a⟩)
    ⟨rateInvariant_init now, fun target c hc => absurd hc (Option.some_ne_none c).symm⟩ actions
  exact hBoth.2

/-- Every run leaves a stuck key stuck. -/
theorem run_stuck (hRate : s.RateInvariant sha256 settings)
    (hStuck : s.Stuck sha256 key first count) (more : List RateAction) :
    (Machine.run (step sha256 settings) s more).RateInvariant sha256 settings ∧
      (Machine.run (step sha256 settings) s more).Stuck sha256 key first count :=
  Machine.run_invariant
    (I := fun s : RateState => s.RateInvariant sha256 settings ∧ s.Stuck sha256 key first count)
    (fun _ a hInv => ⟨hInv.1.step a, stuck_step hInv.1 hInv.2 a⟩) ⟨hRate, hStuck⟩ more

/-- Nobody who arrives once the counter is stuck is let through. -/
theorem LockedOut.not_served {target : RateTarget} (hRate : s.RateInvariant sha256 settings)
    (h : s.LockedOut sha256 settings target) :
    ¬ s.Served sha256 settings (target.key sha256) := by
  rintro ⟨more, i, r, hIndex, hGet, hKey, hFirst, hPassed⟩
  obtain ⟨c, hc, hEndless, hLimit, hExpiring⟩ := h
  have hStuck : s.Stuck sha256 (target.key sha256) s.requests.length
      (target.limiter settings).limit :=
    { counter := ⟨c, hc, hEndless, hLimit, ((hRate.counters target).last c hc).1⟩
      expiring := hExpiring
      later := fun i r hFirst hGet => by
        rw [List.getElem?_eq_none hFirst] at hGet
        cases hGet }
  obtain ⟨hRateLater, hStuckLater⟩ := run_stuck hRate hStuck more
  -- A new request that passed has a number, and that number is past the limit.
  rcases (hRateLater.shapes r (List.mem_of_getElem? hGet)).passed hPassed with
    ⟨hRepeat, -⟩ | ⟨e, hNumbered, hWithin⟩
  · rw [hFirst] at hRepeat
    cases hRepeat
  · have hMore := hStuckLater.later i r hIndex hGet hKey e hNumbered
    rw [show r.limiter settings = target.limiter settings from
      RateTarget.limiter_eq_of_key_eq hKey] at hWithin
    have hLess := RateLimiter.le_limit hWithin
    omega

/-- Otherwise somebody can be. -/
theorem served_of_not_lockedOut {target : RateTarget} (hRate : s.RateInvariant sha256 settings)
    (hRequests : 0 < (target.limiter settings).requests)
    (h : ¬ s.LockedOut sha256 settings target) : s.Served sha256 settings (target.key sha256) := by
  cases hCounter : s.redis.counters (target.key sha256) with
  | none =>
    refine served_of_count ?_
    have hGone : s.redis.live (target.key sha256) = none :=
      RedisCounters.live_eq_none.mpr fun c hc => by
        rw [hCounter] at hc
        cases hc
    rw [RedisCounters.nextCount_of_none hGone]
    exact hRequests
  | some c =>
    cases hTime : c.expiresAt with
    | some t => exact served_of_expiresAt hRequests hCounter hTime
    | none =>
      by_cases hExpiring : ∃ r ∈ s.requests, r.key sha256 = target.key sha256 ∧ r.IsExpiring
      · obtain ⟨r, hr, hKey, hExpiring⟩ := hExpiring
        exact served_of_expiring hRate hRequests hCounter hTime hr hKey hExpiring
      · -- the counter has not reached the limit
        have hLess : ¬ (target.limiter settings).limit ≤ c.count := fun hLimit =>
          h ⟨c, hCounter, hTime, hLimit, fun r hr hKey hr' => hExpiring ⟨r, hr, hKey, hr'⟩⟩
        refine served_of_count ?_
        rw [RedisCounters.nextCount_of_some (live_of_endless hCounter hTime)]
        unfold RateLimiter.limit at hLess
        omega

end RateState

/-- **Locked out for good.** At any point of any run no request that arrives later can pass under a
key, whatever happens, exactly when its counter has reached the limit without a time to live and
nobody is about to set it. Then the request that this counter has counted first was stopped before
its second command, or was told that the service is not available. -/
theorem locked_out_for_good (now : Datetime) (actions : List RateAction) (target : RateTarget)
    (hRequests : 0 < (target.limiter settings).requests) :
    let s := Machine.run (RateState.step sha256 settings) (.init now) actions
    (s.LockedOut sha256 settings target ↔
      ∀ more i r, s.requests.length ≤ i →
        (Machine.run (RateState.step sha256 settings) s more).requests[i]? = some r →
          r.key sha256 = target.key sha256 → r.isRepeat = false → r.passed = false) ∧
      (s.LockedOut sha256 settings target →
        ∃ c, s.redis.counters (target.key sha256) = some c ∧ ∃ r ∈ s.requests,
          RateState.CountedFirst sha256 (target.key sha256) (s.history (target.key sha256))
            c.count r ∧
          (r.stopped = true ∧ r.program.outcome? = none ∨
            r.program = .done (.error (r.limiter settings).serviceUnavailable))) := by
  intro s
  have hRate : s.RateInvariant sha256 settings := RateState.run_rateInvariant now actions
  have hEndless : s.EndlessInvariant sha256 settings := RateState.run_endlessInvariant now actions
  refine ⟨⟨fun hLocked more i r hIndex hGet hKey hFirst => ?_, fun hAll => ?_⟩, ?_⟩
  · by_contra hPassed
    exact hLocked.not_served hRate
      ⟨more, i, r, hIndex, hGet, hKey, hFirst, Bool.eq_true_of_not_eq_false hPassed⟩
  · by_contra hOpen
    -- If it is not locked out, some continuation serves a new request.
    obtain ⟨more, i, r, hIndex, hGet, hKey, hFirst, hPassed⟩ :=
      RateState.served_of_not_lockedOut hRate hRequests hOpen
    rw [hAll more i r hIndex hGet hKey hFirst] at hPassed
    cases hPassed
  · rintro ⟨c, hc, hNone, -, hExpiring⟩
    obtain ⟨r, hr, hFirst, hLeft⟩ := hEndless target c hc hNone
    refine ⟨c, hc, r, hr, hFirst, ?_⟩
    -- The request that left the counter endless was stopped, or its call failed.
    rcases hLeft with hOpen | hFailed
    · refine .inl ⟨?_, hOpen⟩
      by_contra hRunning
      obtain ⟨hKey, e, he, -⟩ := hFirst
      exact hExpiring r hr hKey ⟨Bool.eq_false_iff.mpr hRunning, by rw [he]; rfl, hOpen⟩
    · exact .inr hFailed

/-- Two requests are allowed; the time to live of the first one is never set. -/
theorem locked_out_after_refused_expire :
    let settings : RateLimitSettings := ⟨10, 60, 2, 60⟩
    let s := Machine.run (RateState.step id settings) (.init 0)
      [.arrive (.ai 1 2) false, .call 0 .answered, .call 0 .refused, .arrive (.ai 1 2) false,
        .call 1 .answered]
    ∀ more i r, s.requests.length ≤ i →
      (Machine.run (RateState.step id settings) s more).requests[i]? = some r →
        r.key id = RateTarget.key id (.ai 1 2) → r.isRepeat = false → r.passed = false := by
  refine (locked_out_for_good 0 _ (.ai 1 2) (by decide)).1.mp ⟨⟨2, none⟩, rfl, rfl, by decide, ?_⟩
  intro r hr hKey hExpiring
  -- Both requests are over, so neither will set the time to live.
  have hDone : r.program.outcome? ≠ none := by
    rcases List.mem_cons.mp hr with rfl | hr
    · exact Option.some_ne_none _
    · obtain rfl := List.mem_singleton.mp hr
      exact Option.some_ne_none _
  exact hDone hExpiring.2.2

end SpikeBackend
