import SpikeBackend.Lib.Decimals
import SpikeBackend.Lib.FixedWindow
import SpikeBackend.Lib.Hex
import SpikeBackend.Lib.Concurrent
import SpikeBackend.Model.Subscriptions

/-!
# Rate limits

The limiters of `app/services/rate_limit.py` as programs over Redis, the dependencies of
`app/api/deps.py` that answer its errors, and any number of requests that run them side by side.
A request can stop between its two commands, and time passes in between.
-/

namespace SpikeBackend

open Text Outcome Remote FixedWindow

-- ---------------------------------------------------------------------------
-- Redis
-- ---------------------------------------------------------------------------

structure RedisCounter where
  count : Nat
  expiresAt : Option Datetime := none

/-- The counters of Redis; one whose time has come is as good as gone. -/
structure RedisCounters where
  now : Datetime
  counters : Str → Option RedisCounter

namespace RedisCounters

variable (r : RedisCounters) (key : Str)

def live : Option RedisCounter := (r.counters key).filter fun c => c.expiresAt.all (r.now < ·)

/-- What `INCR` answers. -/
def nextCount : Nat := ((r.live key).map RedisCounter.count).getD 0 + 1

/-- `INCR`, which keeps the time to live. -/
def incr : RedisCounters :=
  { r with
    counters := Function.update r.counters key
      (some ⟨r.nextCount key, (r.live key).bind RedisCounter.expiresAt⟩) }

/-- `EXPIRE`. -/
def expire (duration : Int) : RedisCounters :=
  match r.live key with
  | none => r
  | some c =>
    { r with counters := Function.update r.counters key (some ⟨c.count, some (r.now + duration)⟩) }

end RedisCounters

-- ---------------------------------------------------------------------------
-- The limiters
-- ---------------------------------------------------------------------------

structure HttpException where
  status : Nat
  detail : Str
  retryAfter : Option Str := none
  deriving DecidableEq

structure RateLimitSettings where
  authRateLimitRequests : Int
  authRateLimitWindowSeconds : Int
  aiRateLimitRequests : Int
  aiRateLimitWindowSeconds : Int

/-- What the two limiters differ in. -/
structure RateLimiter where
  requests : Int
  windowSeconds : Int
  tooMany : Str
  unavailable : Str

namespace RateLimiter

variable (limiter : RateLimiter)

def window : Int := seconds limiter.windowSeconds

/-- The numbers that a limiter lets through. -/
def limit : Nat := limiter.requests.toNat

def tooManyRequests : HttpException :=
  ⟨429, limiter.tooMany, some (intText limiter.windowSeconds)⟩

/-- How the dependency answers a `RedisError`. -/
def serviceUnavailable : HttpException := ⟨503, limiter.unavailable, none⟩

/-- What follows `INCR`. -/
def afterCount (key : Str) (count : Nat) : Program RedisCounters HttpException Unit := do
  if count = 1 then
    .request limiter.serviceUnavailable (fun _ => ()) (·.expire key limiter.window)
  (monadLift (ensure ((count : Int) ≤ limiter.requests) limiter.tooManyRequests) :
    Program RedisCounters HttpException Unit)

/-- The limiter, under a key. -/
def enforce (key : Str) : Program RedisCounters HttpException Unit := do
  let count ← .request limiter.serviceUnavailable (·.nextCount key) (·.incr key)
  limiter.afterCount key count

end RateLimiter

/-- Whose requests are counted together. -/
inductive RateTarget
  | auth (clientHost : Option Str)
  | ai (businessId userId : Uuid)

namespace RateTarget

variable (sha256 : Str → Str) (settings : RateLimitSettings)

/-- The key; `sha256` is the hexadecimal digest of the encoded text. -/
def key : RateTarget → Str
  | .auth clientHost => str "spike:rate-limit:auth:" ++ sha256 (clientHost.getD (str "unknown"))
  | .ai businessId userId =>
    str "spike:rate-limit:ai:" ++ sha256 (uuidText businessId ++ str ":" ++ uuidText userId)

def limiter : RateTarget → RateLimiter
  | .auth _ =>
    { requests := settings.authRateLimitRequests
      windowSeconds := settings.authRateLimitWindowSeconds
      tooMany := str "Too many requests. Please try again later."
      unavailable := str "Authentication service is temporarily unavailable." }
  | .ai _ _ =>
    { requests := settings.aiRateLimitRequests
      windowSeconds := settings.aiRateLimitWindowSeconds
      tooMany := str "Too many AI requests. Please try again later."
      unavailable := str "AI service is temporarily unavailable." }

/-- `enforce_auth_rate_limit` and `enforce_ai_rate_limit`, with the answers of the dependencies. -/
def enforce (target : RateTarget) : Program RedisCounters HttpException Unit :=
  (target.limiter settings).enforce (target.key sha256)

/-- The dependencies. The one of the AI requests counts no request that repeats the key of a
message. -/
def enforceDependency (target : RateTarget) (messageExists : Bool) :
    Program RedisCounters HttpException Unit :=
  match target with
  | .auth _ => target.enforce sha256 settings
  | .ai _ _ => if messageExists then return () else target.enforce sha256 settings

end RateTarget

-- ---------------------------------------------------------------------------
-- Runs
-- ---------------------------------------------------------------------------

/-- A request: what is left of its dependency, and the time and the number of its `INCR`. -/
structure RateRequest where
  target : RateTarget
  messageExists : Bool
  program : Program RedisCounters HttpException Unit
  numbered : Option Numbered := none
  /-- it was cancelled, or its process has ended -/
  stopped : Bool := false

namespace RateRequest

/-- A request for an AI answer that repeats the key of a message. -/
def isRepeat (r : RateRequest) : Bool :=
  match r.target with
  | .auth _ => false
  | .ai _ _ => r.messageExists

/-- The dependency has let the request through. -/
def passed (r : RateRequest) : Bool := r.program.outcome? matches some (.ok _)

end RateRequest

structure RateState where
  redis : RedisCounters
  requests : List RateRequest := []
  /-- what has been counted under a key, the last one first -/
  history : Str → List Numbered := fun _ => []

inductive RateAction
  | arrive (target : RateTarget) (messageExists : Bool)
  /-- the next command of a request -/
  | call (i : Nat) (fate : Fate)
  | stop (i : Nat)
  | pass (duration : Nat)

namespace RateState

variable (sha256 : Str → Str) (settings : RateLimitSettings) (s : RateState)

/-- The number of a request whose next command is its `INCR`, if Redis carries it out. -/
def numbers (r : RateRequest) (fate : Fate) : Option Numbered :=
  if r.numbered.isNone && r.program.outcome?.isNone && fate != .refused then
    some ⟨s.redis.now, s.redis.nextCount (r.target.key sha256)⟩
  else none

/-- The next command of a request. -/
def advance (i : Nat) (r : RateRequest) (fate : Fate) : RateState :=
  { redis := (r.program.advance s.redis fate).2
    requests := s.requests.set i
      { r with
        program := (r.program.advance s.redis fate).1
        numbered := r.numbered.or (s.numbers sha256 r fate) }
    history := Function.update s.history (r.target.key sha256)
      ((s.numbers sha256 r fate).toList ++ s.history (r.target.key sha256)) }

def step (s : RateState) : RateAction → RateState
  | .arrive target messageExists =>
    { s with
      requests := s.requests ++
        [{ target, messageExists
           program := target.enforceDependency sha256 settings messageExists }] }
  | .call i fate =>
    match s.requests[i]? with
    | none => s
    | some r => if r.stopped then s else s.advance sha256 i r fate
  | .stop i =>
    match s.requests[i]? with
    | none => s
    | some r => { s with requests := s.requests.set i { r with stopped := true } }
  | .pass duration => { s with redis := { s.redis with now := s.redis.now + duration } }

/-- No counters, at some time. -/
def init (now : Datetime) : RateState where
  redis := ⟨now, fun _ => none⟩

/-- The requests under a key that were counted in a span and let through. -/
def passedIn (key : Str) (start window : Int) : Nat :=
  s.requests.countP fun r => decide (r.target.key sha256 = key) && r.passed &&
    r.numbered.any fun e => decide (start ≤ e.time ∧ e.time < start + window)

end RateState

end SpikeBackend
