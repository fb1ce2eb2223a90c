import SpikeBackend.Lib.Machine
import SpikeBackend.Model.RateLimit

/-!
# What the limiters count

Any number of requests run their limiters side by side; commands get lost, requests stop half-way,
and counters run out in between.

* `advance_cases` — what the next command of a request does to Redis and to what is left of it;
* `RateInvariant` — what is counted under a key is windowed, and what is left of a request follows
  from its number;
* `passed_in_window` — in any span as long as the window fewer than twice the limit pass.
-/

namespace SpikeBackend

open Text Outcome Remote Program FixedWindow

variable {sha256 : Str → Str} {settings : RateLimitSettings}

-- ---------------------------------------------------------------------------
-- Keys
-- ---------------------------------------------------------------------------

/-- Requests that are counted together have the same limiter. -/
theorem RateTarget.limiter_eq_of_key_eq {target target' : RateTarget}
    (h : target.key sha256 = target'.key sha256) :
    target.limiter settings = target'.limiter settings := by
  -- the prefixes differ in the nineteenth letter
  have hLetter : (target.key sha256)[18]? = (target'.key sha256)[18]? := by rw [h]
  cases target with
  | auth clientHost =>
    cases target' with
    | auth clientHost' => rfl
    | ai businessId userId => exact absurd (Option.some.inj hLetter) (by decide)
  | ai businessId userId =>
    cases target' with
    | auth clientHost => exact absurd (Option.some.inj hLetter) (by decide)
    | ai businessId' userId' => rfl

-- ---------------------------------------------------------------------------
-- Redis
-- ---------------------------------------------------------------------------

namespace RedisCounters

variable {r : RedisCounters} {key key' : Str}

/-- A counter is live as long as its time to live has not passed. -/
theorem live_eq_some {c : RedisCounter} :
    r.live key = some c ↔ r.counters key = some c ∧ ∀ t, c.expiresAt = some t → r.now < t := by
  rw [live, Option.filter_eq_some_iff]
  refine and_congr_right fun _ => ?_
  rw [Option.all_eq_true]
  exact forall₂_congr fun t _ => decide_eq_true_iff

/-- A counter that is gone was never there, or its time has come. -/
theorem live_eq_none :
    r.live key = none ↔
      ∀ c, r.counters key = some c → ∃ t, c.expiresAt = some t ∧ t ≤ r.now := by
  constructor
  · intro hGone c hCounter
    -- a counter without such a time would be live
    by_contra hNone
    have hLive : r.live key = some c := live_eq_some.mpr ⟨hCounter, fun t ht => by
      by_contra hPast
      exact hNone ⟨t, ht, not_lt.mp hPast⟩⟩
    rw [hGone] at hLive
    exact absurd hLive (Option.some_ne_none c).symm
  · intro hAll
    cases hLive : r.live key with
    | none => rfl
    | some c =>
      obtain ⟨hCounter, hTime⟩ := live_eq_some.mp hLive
      obtain ⟨t, ht, hPast⟩ := hAll c hCounter
      exact absurd (hTime t ht) (not_lt.mpr hPast)

theorem nextCount_of_none (h : r.live key = none) : r.nextCount key = 1 := by
  rw [nextCount, h]
  rfl

theorem nextCount_of_some {c : RedisCounter} (h : r.live key = some c) :
    r.nextCount key = c.count + 1 := by
  rw [nextCount, h]
  rfl

/-- `INCR` counts one, and keeps the time to live of a live counter. -/
theorem incr_counters_self :
    (r.incr key).counters key =
      some ⟨r.nextCount key, (r.live key).bind RedisCounter.expiresAt⟩ :=
  Function.update_self ..

theorem incr_counters_of_ne (h : key' ≠ key) : (r.incr key).counters key' = r.counters key' :=
  Function.update_of_ne h ..

theorem expire_now (duration : Int) : (r.expire key duration).now = r.now := by
  unfold expire
  split <;> rfl

/-- `EXPIRE` changes no other key. -/
theorem expire_counters_of_ne (duration : Int) (h : key' ≠ key) :
    (r.expire key duration).counters key' = r.counters key' := by
  unfold expire
  split
  · rfl
  · exact Function.update_of_ne h ..

/-- `EXPIRE` leaves no counter, or one that counts on and runs out. -/
theorem expire_counters_self (duration : Int) :
    (r.live key = none ∧ (r.expire key duration).counters key = r.counters key) ∨
      ∃ c, r.live key = some c ∧
        (r.expire key duration).counters key = some ⟨c.count, some (r.now + duration)⟩ := by
  unfold expire
  split
  · next hLive => exact .inl ⟨hLive, rfl⟩
  · next c hLive => exact .inr ⟨c, hLive, Function.update_self ..⟩

end RedisCounters

-- ---------------------------------------------------------------------------
-- Programs
-- ---------------------------------------------------------------------------

namespace RateLimiter

variable (limiter : RateLimiter) (key : Str)

theorem enforce_eq :
    limiter.enforce key =
      .call limiter.serviceUnavailable (·.incr key)
        fun r => limiter.afterCount key (r.nextCount key) := rfl

theorem afterCount_one :
    limiter.afterCount key 1 =
      .call limiter.serviceUnavailable (·.expire key limiter.window)
        fun _ => .done (ensure (((1 : Nat) : Int) ≤ limiter.requests) limiter.tooManyRequests) := rfl

/-- Any other count ends the request at once. -/
theorem afterCount_of_ne {count : Nat} (h : count ≠ 1) :
    limiter.afterCount key count =
      .done (ensure ((count : Int) ≤ limiter.requests) limiter.tooManyRequests) := by
  unfold afterCount
  rw [if_neg h]
  rfl

variable {limiter} in
theorem le_limit {count : Nat} (h : (count : Int) ≤ limiter.requests) : count ≤ limiter.limit := by
  unfold limit
  omega

end RateLimiter

-- ---------------------------------------------------------------------------
-- The next command of a request
-- ---------------------------------------------------------------------------

namespace RateRequest

variable (sha256 settings)

def key (r : RateRequest) : Str := r.target.key sha256

def limiter (r : RateRequest) : RateLimiter := r.target.limiter settings

/-- What is left of a request, by its number. -/
inductive Shape (r : RateRequest) : Prop
  | repeated (hRepeat : r.isRepeat = true) (hNone : r.numbered = none)
      (hProgram : r.program = .done (.ok ()))
  | waiting (hFirst : r.isRepeat = false) (hNone : r.numbered = none)
      (hProgram : r.program = (r.limiter settings).enforce (r.key sha256))
  | failed (hFirst : r.isRepeat = false)
      (hProgram : r.program = .done (.error (r.limiter settings).serviceUnavailable))
  | expiring (e : Numbered) (hFirst : r.isRepeat = false) (hSome : r.numbered = some e)
      (hOne : e.number = 1)
      (hProgram : r.program = (r.limiter settings).afterCount (r.key sha256) 1)
  | answered (e : Numbered) (hFirst : r.isRepeat = false) (hSome : r.numbered = some e)
      (hProgram : r.program = .done
        (ensure ((e.number : Int) ≤ (r.limiter settings).requests)
          (r.limiter settings).tooManyRequests))

/-- Its `INCR` has answered one, and its `EXPIRE` is still to come. -/
def IsExpiring (r : RateRequest) : Prop :=
  r.stopped = false ∧ r.numbered.isSome = true ∧ r.program.outcome? = none

variable {sha256 settings}

/-- A request that is about to send its `EXPIRE` has the number one. -/
theorem Shape.program_of_expiring {r : RateRequest} (h : r.Shape sha256 settings)
    (hExpiring : r.IsExpiring) :
    r.program = (r.limiter settings).afterCount (r.key sha256) 1 := by
  obtain ⟨-, hNumbered, hOpen⟩ := hExpiring
  cases h with
  | repeated _ _ hProgram | failed _ hProgram | answered _ _ _ hProgram =>
    rw [hProgram] at hOpen
    cases hOpen
  | waiting _ hNone _ =>
    rw [hNone] at hNumbered
    cases hNumbered
  | expiring _ _ _ _ hProgram => exact hProgram

/-- A request that the dependency has let through is a repeat, or was counted within the limit. -/
theorem Shape.passed {r : RateRequest} (h : r.Shape sha256 settings) (hPassed : r.passed = true) :
    (r.isRepeat = true ∧ r.numbered = none) ∨
      ∃ e, r.numbered = some e ∧ (e.number : Int) ≤ (r.limiter settings).requests := by
  -- only a repeat and a request that has its answer have passed
  cases h with
  | repeated hRepeat hNone hProgram => exact .inl ⟨hRepeat, hNone⟩
  | waiting _ hNone hProgram =>
    rw [RateRequest.passed, hProgram] at hPassed
    cases hPassed
  | failed _ hProgram =>
    rw [RateRequest.passed, hProgram] at hPassed
    cases hPassed
  | expiring e _ hSome hOne hProgram =>
    rw [RateRequest.passed, hProgram] at hPassed
    cases hPassed
  | answered e _ hSome hProgram =>
    -- the answer is the comparison of the number with the limit
    refine .inr ⟨e, hSome, ?_⟩
    by_contra hMore
    rw [RateRequest.passed, hProgram, ensure_neg hMore] at hPassed
    cases hPassed

/-- A request that passed was counted within the limit. -/
theorem Shape.number_le {r : RateRequest} (h : r.Shape sha256 settings) (hPassed : r.passed = true)
    {e : Numbered} (hNumbered : r.numbered = some e) :
    (e.number : Int) ≤ (r.limiter settings).requests := by
  rcases h.passed hPassed with ⟨-, hNone⟩ | ⟨e', hSome, hWithin⟩
  · rw [hNumbered] at hNone
    cases hNone
  · rw [hNumbered] at hSome
    obtain rfl := Option.some.inj hSome
    exact hWithin

end RateRequest

namespace RateState

section

variable (sha256 settings) (s : RateState) (r : RateRequest)

/-- What the next command of a request can make of Redis and of the request, and the number that it
gives. -/
inductive Advanced : RedisCounters → RateRequest → Option Numbered → Prop
  | idle (hDone : r.program.outcome?.isSome = true) : Advanced s.redis r none
  | refused (hFirst : r.isRepeat = false) :
      Advanced s.redis
        { r with program := .done (.error (r.limiter settings).serviceUnavailable) } none
  | counted (e : Numbered) (p : Program RedisCounters HttpException Unit)
      (hFirst : r.isRepeat = false) (hWaiting : r.numbered = none) (hTime : e.time = s.redis.now)
      (hNumber : e.number = s.redis.nextCount (r.key sha256))
      (hProgram : p = .done (.error (r.limiter settings).serviceUnavailable) ∨
        p = (r.limiter settings).afterCount (r.key sha256) e.number) :
      Advanced (s.redis.incr (r.key sha256)) { r with program := p, numbered := some e } (some e)
  | expired (e : Numbered) (p : Program RedisCounters HttpException Unit)
      (hFirst : r.isRepeat = false) (hExpiring : r.numbered = some e) (hOne : e.number = 1)
      (hOpen : r.program.outcome? = none)
      (hProgram : p = .done (.error (r.limiter settings).serviceUnavailable) ∨
        p = .done (ensure ((e.number : Int) ≤ (r.limiter settings).requests)
          (r.limiter settings).tooManyRequests)) :
      Advanced (s.redis.expire (r.key sha256) (r.limiter settings).window)
        { r with program := p } none

end

variable {s : RateState} {r : RateRequest}

theorem numbers_of_some {e : Numbered} (h : r.numbered = some e) (fate : Fate) :
    s.numbers sha256 r fate = none := by
  rw [numbers, h]
  rfl

/-- A request that has ended is not counted any more. -/
theorem numbers_of_done {outcome : Except HttpException Unit} (h : r.program = .done outcome)
    (fate : Fate) : s.numbers sha256 r fate = none := by
  rw [numbers, h]
  cases r.numbered with
  | none => rfl
  | some e => rfl

/-- A request that has its answer stays as it is. -/
theorem advanced_done {outcome : Except HttpException Unit} (h : r.program = .done outcome)
    (fate : Fate) :
    s.Advanced sha256 settings r (r.program.advance s.redis fate).2
      { r with
        program := (r.program.advance s.redis fate).1
        numbered := r.numbered.or (s.numbers sha256 r fate) }
      (s.numbers sha256 r fate) := by
  have hSame : r.program.advance s.redis fate = (r.program, s.redis) := by
    rw [h]
    rfl
  rw [numbers_of_done h, hSame, Option.or_none]
  exact .idle (by rw [h]; rfl)

/-- **The next command.** -/
theorem advance_cases (hShape : r.Shape sha256 settings) (fate : Fate) :
    s.Advanced sha256 settings r (r.program.advance s.redis fate).2
      { r with
        program := (r.program.advance s.redis fate).1
        numbered := r.numbered.or (s.numbers sha256 r fate) }
      (s.numbers sha256 r fate) := by
  cases hShape with
  | repeated hRepeat hNone hProgram => exact advanced_done hProgram fate
  | failed hFirst hProgram => exact advanced_done hProgram fate
  | answered e hFirst hSome hProgram => exact advanced_done hProgram fate
  | waiting hFirst hNone hProgram =>
    have hCall := hProgram.trans ((r.limiter settings).enforce_eq (r.key sha256))
    -- the `INCR` is carried out unless it is refused, also where its answer is lost
    have hNumbers : s.numbers sha256 r fate =
        if fate != .refused then some ⟨s.redis.now, s.redis.nextCount (r.key sha256)⟩ else none := by
      rw [numbers, hNone, hCall]
      rfl
    rw [hNumbers, hNone, Option.none_or, hCall]
    cases fate with
    | answered => exact .counted _ _ hFirst hNone rfl rfl (.inr rfl)
    | lost => exact .counted _ _ hFirst hNone rfl rfl (.inl rfl)
    | refused =>
      have hRefused : s.Advanced sha256 settings r s.redis _ none := .refused hFirst
      rw [hNone] at hRefused
      exact hRefused
  | expiring e hFirst hSome hOne hProgram =>
    have hCall := hProgram.trans ((r.limiter settings).afterCount_one (r.key sha256))
    -- the count is one, so the next command is the `EXPIRE`
    have hOpen : r.program.outcome? = none := by
      rw [hCall]
      rfl
    rw [numbers_of_some hSome, Option.or_none, hCall]
    cases fate with
    | answered => exact .expired e _ hFirst hSome hOne hOpen (.inr (by rw [hOne]; rfl))
    | lost => exact .expired e _ hFirst hSome hOne hOpen (.inl rfl)
    | refused => exact .refused hFirst

/-- What is left of the request follows from its number again. -/
theorem Advanced.shape {redis : RedisCounters} {r' : RateRequest} {number : Option Numbered}
    (h : s.Advanced sha256 settings r redis r' number) (hShape : r.Shape sha256 settings) :
    r'.Shape sha256 settings := by
  cases h with
  | idle hDone => exact hShape
  | refused hFirst => exact .failed hFirst rfl
  | counted e p hFirst hWaiting hTime hNumber hProgram =>
    rcases hProgram with rfl | rfl
    · exact .failed hFirst rfl
    · -- the first count of a window still has its `EXPIRE` to send, and every other one has its
      -- answer
      by_cases hOne : e.number = 1
      · exact .expiring e hFirst rfl hOne (by rw [hOne]; rfl)
      · exact .answered e hFirst rfl (RateLimiter.afterCount_of_ne _ _ hOne)
  | expired e p hFirst hExpiring hOne hOpen hProgram =>
    rcases hProgram with rfl | rfl
    · exact .failed hFirst rfl
    · exact .answered e hFirst hExpiring rfl

-- ---------------------------------------------------------------------------
-- The counter of a key
-- ---------------------------------------------------------------------------

section

variable (sha256 settings) (target : RateTarget) (s : RateState)

/-- What has been counted under a key by requests that are there. -/
def countedUnder (key : Str) (requests : List RateRequest) : List Numbered :=
  requests.filterMap fun r => if r.key sha256 = key then r.numbered else none

/-- The counter is at the last number that was given, and its time comes when a window has gone by
since every beginning. -/
structure CounterInvariant (key : Str) (window : Int) (redis : RedisCounters)
    (history : List Numbered) : Prop where
  windowed : Windowed window history
  past : ∀ e ∈ history, e.time ≤ redis.now
  absent : redis.counters key = none → history = []
  last : ∀ c, redis.counters key = some c → 1 ≤ c.count ∧
    ∃ e rest, history = e :: rest ∧ e.number = c.count
  apart : ∀ c t, redis.counters key = some c → c.expiresAt = some t →
    ∀ e ∈ history, e.number = 1 → e.time + window ≤ t

/-- **The invariant.** -/
structure RateInvariant : Prop where
  shapes : ∀ r ∈ s.requests, r.Shape sha256 settings
  counts : ∀ target : RateTarget,
    (countedUnder sha256 (target.key sha256) s.requests).Perm (s.history (target.key sha256))
  counters : ∀ target : RateTarget, CounterInvariant (target.key sha256)
    (target.limiter settings).window s.redis (s.history (target.key sha256))

end

/-- Other commands, and time. -/
theorem CounterInvariant.of_same {key : Str} {window : Int} {redis redis' : RedisCounters}
    {history : List Numbered} (h : CounterInvariant key window redis history)
    (hSame : redis'.counters key = redis.counters key) (hNow : redis.now ≤ redis'.now) :
    CounterInvariant key window redis' history where
  windowed := h.windowed
  past e he := (h.past e he).trans hNow
  absent hNone := h.absent (hSame.symm.trans hNone)
  last c hCounter := h.last c (hSame.symm.trans hCounter)
  apart c t hCounter := h.apart c t (hSame.symm.trans hCounter)

/-- `INCR` gives the next number, or begins again. -/
theorem CounterInvariant.incr {key : Str} {window : Int} {redis : RedisCounters}
    {history : List Numbered} (h : CounterInvariant key window redis history) {e : Numbered}
    (hTime : e.time = redis.now) (hNumber : e.number = redis.nextCount key) :
    CounterInvariant key window (redis.incr key) (e :: history) := by
  obtain ⟨time, number⟩ := e
  obtain rfl : time = redis.now := hTime
  obtain rfl : number = redis.nextCount key := hNumber
  have hPast : ∀ e ∈ (⟨redis.now, redis.nextCount key⟩ : Numbered) :: history,
      e.time ≤ redis.now := by
    intro e he
    rcases List.mem_cons.mp he with rfl | hOld
    · exact le_rfl
    · exact h.past e hOld
  have hCounter : ∀ c, (redis.incr key).counters key = some c →
      c = ⟨redis.nextCount key, (redis.live key).bind RedisCounter.expiresAt⟩ := fun c hc =>
    (Option.some.inj (RedisCounters.incr_counters_self.symm.trans hc)).symm
  refine
    { windowed := ?_
      past := hPast
      absent := fun hNone =>
        absurd (RedisCounters.incr_counters_self.symm.trans hNone) (Option.some_ne_none _)
      last := fun c hc => ?_
      apart := fun c t hc ht e he hOne => ?_ }
  · cases hLive : redis.live key with
    | none =>
      rw [RedisCounters.nextCount_of_none hLive]
      refine .restart h.windowed h.past fun e he hOne => ?_
      cases hOld : redis.counters key with
      | none =>
        rw [h.absent hOld] at he
        exact absurd he List.not_mem_nil
      | some c =>
        obtain ⟨t, ht, hGone⟩ := RedisCounters.live_eq_none.mp hLive c hOld
        exact (h.apart c t hOld ht e he hOne).trans hGone
    | some c =>
      obtain ⟨-, last, rest, rfl, hLast⟩ := h.last c (RedisCounters.live_eq_some.mp hLive).1
      rw [RedisCounters.nextCount_of_some hLive, ← hLast]
      exact .next h.windowed (h.past last List.mem_cons_self)
  · obtain rfl := hCounter c hc
    exact ⟨Nat.le_add_left 1 _, _, history, rfl, rfl⟩
  · obtain rfl := hCounter c hc
    obtain ⟨old, hLive, hOldTime⟩ := Option.bind_eq_some_iff.mp ht
    have hOld := (RedisCounters.live_eq_some.mp hLive).1
    rcases List.mem_cons.mp he with rfl | hRest
    · -- the counter goes on, so its number is not one
      have hNext : redis.nextCount key = 1 := hOne
      rw [RedisCounters.nextCount_of_some hLive] at hNext
      have hPositive := (h.last old hOld).1
      omega
    · exact h.apart old t hOld hOldTime e hRest hOne

/-- `EXPIRE` sets a time that is a window from now. -/
theorem CounterInvariant.expire {key : Str} {window : Int} {redis : RedisCounters}
    {history : List Numbered} (h : CounterInvariant key window redis history) :
    CounterInvariant key window (redis.expire key window) history := by
  have hNow : (redis.expire key window).now = redis.now := RedisCounters.expire_now window
  -- `EXPIRE` of a counter that is gone does nothing
  rcases @RedisCounters.expire_counters_self redis key window with ⟨-, hSame⟩ | ⟨c, hLive, hSet⟩
  · exact h.of_same hSame hNow.ge
  have hOld := (RedisCounters.live_eq_some.mp hLive).1
  refine
    { windowed := h.windowed
      past := fun e he => (h.past e he).trans hNow.ge
      absent := fun hNone => absurd (hSet.symm.trans hNone) (Option.some_ne_none _)
      last := fun c' hc => ?_
      apart := fun c' t hc ht e he hOne => ?_ }
  · obtain rfl := Option.some.inj (hSet.symm.trans hc)
    exact h.last c hOld
  · obtain rfl := Option.some.inj (hSet.symm.trans hc)
    obtain rfl := Option.some.inj ht
    -- the window starts at the present moment, behind every request that was counted
    have hPast := h.past e he
    omega

-- ---------------------------------------------------------------------------
-- Steps
-- ---------------------------------------------------------------------------

/-- A list around one of its entries. -/
theorem exists_split {α : Type} {l : List α} {i : Nat} {a : α} (h : l[i]? = some a) :
    ∃ before after, l = before ++ a :: after ∧ ∀ b, l.set i b = before ++ b :: after := by
  induction l generalizing i with
  | nil => exact absurd h (Option.some_ne_none a).symm
  | cons x l ih =>
    cases i with
    | zero =>
      obtain rfl := Option.some.inj h
      exact ⟨[], l, rfl, fun b => rfl⟩
    | succ i =>
      obtain ⟨before, after, hSplit, hSet⟩ := ih h
      refine ⟨x :: before, after, congrArg (x :: ·) hSplit, fun b => ?_⟩
      exact congrArg (x :: ·) (hSet b)

/-- The requests around the one that takes a step. -/
theorem countedUnder_split (key : Str) (before after : List RateRequest) (r : RateRequest) :
    countedUnder sha256 key (before ++ r :: after) =
      countedUnder sha256 key before ++
        (if r.key sha256 = key then r.numbered else none).toList ++ countedUnder sha256 key after := by
  rw [countedUnder, List.filterMap_append, List.append_assoc]
  refine congrArg (countedUnder sha256 key before ++ ·) ?_
  -- the request in the middle is counted under the key, or not at all
  rw [List.filterMap_cons]
  split
  · next hNone =>
    rw [hNone]
    rfl
  · next e hSome =>
    rw [hSome]
    rfl

variable {i : Nat} {redis : RedisCounters} {r' : RateRequest} {number : Option Numbered}

theorem Advanced.key_eq (h : s.Advanced sha256 settings r redis r' number) :
    r'.key sha256 = r.key sha256 := by
  cases h <;> rfl

/-- A number is given once, to a request that has none. -/
theorem Advanced.numbered_eq (h : s.Advanced sha256 settings r redis r' number) :
    r'.numbered = r.numbered ∧ number = none ∨
      ∃ e, r.numbered = none ∧ r'.numbered = some e ∧ number = some e := by
  cases h with
  | idle | refused | expired => exact .inl ⟨rfl, rfl⟩
  | counted e p hFirst hWaiting => exact .inr ⟨e, hWaiting, rfl, rfl⟩

/-- The counter of a key, when a request under it or under another key takes a step. -/
theorem Advanced.counterInvariant (h : s.Advanced sha256 settings r redis r' number)
    (hInv : s.RateInvariant sha256 settings) (target : RateTarget) :
    CounterInvariant (target.key sha256) (target.limiter settings).window redis
      (Function.update s.history (r.key sha256) (number.toList ++ s.history (r.key sha256))
        (target.key sha256)) := by
  have hOld := hInv.counters target
  by_cases hKey : target.key sha256 = r.key sha256
  · -- requests with one key have one limiter
    have hLimiter : target.limiter settings = r.limiter settings :=
      RateTarget.limiter_eq_of_key_eq hKey
    rw [hKey, Function.update_self]
    rw [hKey] at hOld
    cases h with
    | idle | refused => exact hOld
    | counted e p hFirst hWaiting hTime hNumber hProgram => exact hOld.incr hTime hNumber
    | expired e p hFirst hExpiring hOne hOpen hProgram =>
      rw [hLimiter] at hOld ⊢
      exact hOld.expire
  · rw [Function.update_of_ne hKey]
    cases h with
    | idle | refused => exact hOld
    | counted => exact hOld.of_same (RedisCounters.incr_counters_of_ne hKey) le_rfl
    | expired =>
      exact hOld.of_same (RedisCounters.expire_counters_of_ne _ hKey)
        (RedisCounters.expire_now _).ge

/-- What is counted under a key, when a request takes a step. -/
theorem Advanced.countedUnder_perm (h : s.Advanced sha256 settings r redis r' number)
    (hInv : s.RateInvariant sha256 settings) (hGet : s.requests[i]? = some r)
    (target : RateTarget) :
    (countedUnder sha256 (target.key sha256) (s.requests.set i r')).Perm
      (Function.update s.history (r.key sha256) (number.toList ++ s.history (r.key sha256))
        (target.key sha256)) := by
  obtain ⟨before, after, hSplit, hSet⟩ := exists_split hGet
  have hOld := hInv.counts target
  rw [hSplit, countedUnder_split] at hOld
  rw [hSet, countedUnder_split, h.key_eq]
  by_cases hKey : target.key sha256 = r.key sha256
  · rw [hKey, Function.update_self, if_pos rfl]
    rw [hKey, if_pos rfl] at hOld
    -- either nothing is counted, or the request is counted at the front
    rcases h.numbered_eq with ⟨hSame, rfl⟩ | ⟨e, hNone, hSome, rfl⟩
    · rw [hSame]
      exact hOld
    · rw [hNone, Option.toList_none, List.append_nil] at hOld
      rw [hSome, Option.toList_some, List.append_assoc]
      exact List.perm_middle.trans (List.Perm.cons e hOld)
  · have hOther : ¬ r.key sha256 = target.key sha256 := fun hSame => hKey hSame.symm
    rw [Function.update_of_ne hKey, if_neg hOther]
    rw [if_neg hOther] at hOld
    exact hOld

/-- **A step of a request.** -/
theorem RateInvariant.advance (hInv : s.RateInvariant sha256 settings)
    (hGet : s.requests[i]? = some r) (fate : Fate) :
    (s.advance sha256 i r fate).RateInvariant sha256 settings := by
  have hShape := hInv.shapes r (List.mem_of_getElem? hGet)
  have hCase := @advance_cases sha256 settings s r hShape fate
  exact
    -- the request that has moved keeps its shape, and the others have not moved
    { shapes := fun r' hr' => by
        rcases List.mem_or_eq_of_mem_set hr' with hOld | rfl
        · exact hInv.shapes r' hOld
        · exact hCase.shape hShape
      counts := hCase.countedUnder_perm hInv hGet
      counters := hCase.counterInvariant hInv }

/-- A request that changes neither its key nor its number. -/
theorem countedUnder_set (hGet : s.requests[i]? = some r) (hKey : r'.key sha256 = r.key sha256)
    (hNumber : r'.numbered = r.numbered) (key : Str) :
    countedUnder sha256 key (s.requests.set i r') = countedUnder sha256 key s.requests := by
  obtain ⟨before, after, hSplit, hSet⟩ := exists_split hGet
  rw [hSet, hSplit, countedUnder_split, countedUnder_split, hKey, hNumber]

/-- A request that arrives has sent nothing yet. -/
theorem shape_of_arrival (target : RateTarget) (messageExists : Bool) :
    RateRequest.Shape sha256 settings
      ⟨target, messageExists, target.enforceDependency sha256 settings messageExists, none, false⟩ := by
  cases target with
  | auth clientHost => exact .waiting rfl rfl rfl
  | ai businessId userId =>
    cases messageExists with
    | true => exact .repeated rfl rfl rfl
    | false => exact .waiting rfl rfl rfl

/-- A request that is stopped keeps its shape. -/
theorem shape_of_stop (hShape : r.Shape sha256 settings) :
    RateRequest.Shape sha256 settings { r with stopped := true } := by
  cases hShape with
  | repeated hRepeat hNone hProgram => exact .repeated hRepeat hNone hProgram
  | waiting hFirst hNone hProgram => exact .waiting hFirst hNone hProgram
  | failed hFirst hProgram => exact .failed hFirst hProgram
  | expiring e hFirst hSome hOne hProgram => exact .expiring e hFirst hSome hOne hProgram
  | answered e hFirst hSome hProgram => exact .answered e hFirst hSome hProgram

theorem step_call_of_none (h : s.requests[i]? = none) (fate : Fate) :
    s.step sha256 settings (.call i fate) = s := by
  simp only [step, h]

theorem step_call (h : s.requests[i]? = some r) (fate : Fate) :
    s.step sha256 settings (.call i fate) =
      if r.stopped then s else s.advance sha256 i r fate := by
  simp only [step, h]

theorem step_stop_of_none (h : s.requests[i]? = none) : s.step sha256 settings (.stop i) = s := by
  simp only [step, h]

theorem step_stop (h : s.requests[i]? = some r) :
    s.step sha256 settings (.stop i) =
      { s with requests := s.requests.set i { r with stopped := true } } := by
  simp only [step, h]

/-- **A step.** -/
theorem RateInvariant.step (hInv : s.RateInvariant sha256 settings) (a : RateAction) :
    (s.step sha256 settings a).RateInvariant sha256 settings := by
  cases a with
  | arrive target messageExists =>
    refine
      { shapes := fun r hr => ?_
        counts := fun target' => ?_
        counters := hInv.counters }
    · rcases List.mem_append.mp hr with hOld | hNew
      · exact hInv.shapes r hOld
      · obtain rfl := List.mem_singleton.mp hNew
        exact shape_of_arrival target messageExists
    · -- the request that arrives has no number yet
      show (countedUnder sha256 _ (s.requests ++ [_])).Perm _
      rw [countedUnder_split, ite_self, Option.toList_none, List.append_nil]
      exact (List.append_nil _).symm ▸ hInv.counts target'
  | call i fate =>
    cases hGet : s.requests[i]? with
    | none =>
      rw [step_call_of_none hGet]
      exact hInv
    | some r =>
      rw [step_call hGet]
      split
      · exact hInv
      · exact hInv.advance hGet fate
  | stop i =>
    cases hGet : s.requests[i]? with
    | none =>
      rw [step_stop_of_none hGet]
      exact hInv
    | some r =>
      rw [step_stop hGet]
      refine
        { shapes := fun r' hr' => ?_
          counts := fun target => ?_
          counters := hInv.counters }
      · rcases List.mem_or_eq_of_mem_set hr' with hOld | rfl
        · exact hInv.shapes r' hOld
        · exact shape_of_stop (hInv.shapes r (List.mem_of_getElem? hGet))
      · have hSame := @countedUnder_set sha256 s r i { r with stopped := true } hGet rfl rfl
        exact (hSame (target.key sha256)).symm ▸ hInv.counts target
  | pass duration =>
    refine
      { shapes := hInv.shapes
        counts := hInv.counts
        counters := fun target => (hInv.counters target).of_same rfl ?_ }
    exact Int.le_add_of_nonneg_right (Int.natCast_nonneg duration)

/-- The invariant holds before the first request. -/
theorem rateInvariant_init (now : Datetime) : (init now).RateInvariant sha256 settings where
  shapes _ hr := absurd hr List.not_mem_nil
  counts _ := .nil
  counters _ :=
    { windowed := .nil
      past := fun _ he => absurd he List.not_mem_nil
      absent := fun _ => rfl
      last := fun c hc => absurd hc (Option.some_ne_none c).symm
      apart := fun c _ hc => absurd hc (Option.some_ne_none c).symm }

/-- **The invariant holds in every run.** -/
theorem run_rateInvariant (now : Datetime) (actions : List RateAction) :
    (Machine.run (step sha256 settings) (init now) actions).RateInvariant sha256 settings :=
  Machine.run_invariant (fun _ a hInv => hInv.step a) (rateInvariant_init now) actions

-- ---------------------------------------------------------------------------
-- The limit
-- ---------------------------------------------------------------------------

/-- What passes in a span has been counted in it, within the limit. -/
theorem RateInvariant.passedIn_le (hInv : s.RateInvariant sha256 settings) (target : RateTarget)
    (start window : Int) :
    s.passedIn sha256 (target.key sha256) start window ≤
      admittedIn start window (target.limiter settings).limit
        (s.history (target.key sha256)) := by
  have hCounted : s.passedIn sha256 (target.key sha256) start window ≤
      (countedUnder sha256 (target.key sha256) s.requests).countP
        fun e => decide (Admitted start window (target.limiter settings).limit e) := by
    unfold passedIn countedUnder
    rw [List.countP_filterMap]
    refine List.countP_mono_left fun r hr hPassed => ?_
    rw [Bool.and_eq_true, Bool.and_eq_true, decide_eq_true_iff, Option.any_eq_true] at hPassed
    obtain ⟨⟨hKey, hPassed⟩, e, hNumbered, hSpan⟩ := hPassed
    -- the limits of the keys are the same, so what passed was within the limit asked about
    replace hKey : r.key sha256 = target.key sha256 := hKey
    have hWithin := (hInv.shapes r hr).number_le hPassed hNumbered
    rw [show r.limiter settings = target.limiter settings from
      RateTarget.limiter_eq_of_key_eq hKey] at hWithin
    rw [if_pos hKey, hNumbered]
    refine decide_eq_true ⟨(of_decide_eq_true hSpan).1, (of_decide_eq_true hSpan).2, ?_⟩
    exact RateLimiter.le_limit hWithin
  exact hCounted.trans ((hInv.counts target).countP_eq _).le

end RateState

/-- **The limit.** Whatever requests run side by side, and whatever becomes of their commands: what
passes without repeating a message was counted, and in any span as long as the window fewer than
twice the limit of requests pass under a key. -/
theorem passed_in_window (now : Datetime) (actions : List RateAction) (target : RateTarget)
    (start : Int) :
    let s := Machine.run (RateState.step sha256 settings) (.init now) actions
    (∀ r ∈ s.requests, r.passed = true → r.isRepeat = false → r.numbered.isSome = true) ∧
      s.passedIn sha256 (target.key sha256) start (target.limiter settings).window ≤
        2 * (target.limiter settings).limit - 1 := by
  have hInv := @RateState.run_rateInvariant sha256 settings now actions
  refine ⟨fun r hr hPassed hFirst => ?_, ?_⟩
  · -- a request that is no repeat passes by its number
    rcases (hInv.shapes r hr).passed hPassed with ⟨hRepeat, -⟩ | ⟨e, hNumbered, -⟩
    · rw [hFirst] at hRepeat
      cases hRepeat
    · rw [hNumbered]
      rfl
  · -- what passes is admitted by a window that restarts, and two windows meet every span of that
    -- length
    exact (hInv.passedIn_le target start _).trans
      ((hInv.counters target).windowed.admittedIn_le start _)

/-- Three requests in less than a minute, where the limit is two. -/
example :
    (Machine.run (RateState.step id ⟨10, 60, 2, 60⟩) (.init 0)
      [.arrive (.ai 1 2) false, .call 0 .answered, .call 0 .answered, .pass (59 * 1000000),
        .arrive (.ai 1 2) false, .call 1 .answered, .pass 1000000,
        .arrive (.ai 1 2) false, .call 2 .answered, .call 2 .answered,
        .arrive (.ai 1 2) false, .call 3 .answered]).passedIn id
          (RateTarget.key id (.ai 1 2)) 1 (seconds 60) = 3 := rfl

end SpikeBackend
