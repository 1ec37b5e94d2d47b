import DeviceWatch.Time

/-!
A limit on task starts: at most `perSecond` tokens are spent in any window of one second.

A token comes back exactly one second after it was spent.  Rate 0 means no limit.
-/

namespace DeviceWatch

/-- The instants of the tokens that are out, oldest first. -/
structure RateLimiter where
  perSecond : Nat
  spent : List Instant
  deriving DecidableEq

namespace RateLimiter

def new (perSecond : Nat) : RateLimiter := ⟨perSecond, []⟩

def window : Int := 1000000000

/-- Takes back the tokens that were spent at least a window ago. -/
def refill (l : RateLimiter) (now : Instant) : RateLimiter :=
  { l with spent := l.spent.dropWhile fun t => window ≤ now.nanos - t.nanos }

inductive Attempt where
  | granted
  | wait (time : Span)
  deriving DecidableEq

/-- Takes a token if one is free, else tells how long to wait for the oldest one. -/
def attempt (l : RateLimiter) (now : Instant) : Attempt × RateLimiter :=
  if l.perSecond = 0 then (.granted, l)
  else
    let l := l.refill now
    match l.spent with
    | oldest :: _ =>
      if l.perSecond ≤ l.spent.length then
        (.wait ⟨(window - (now.nanos - oldest.nanos)).toNat⟩, l)
      else (.granted, { l with spent := l.spent ++ [now] })
    | [] => (.granted, { l with spent := l.spent ++ [now] })

def available (l : RateLimiter) (now : Instant) : Option Nat :=
  if l.perSecond = 0 then none else some (l.perSecond - (l.refill now).spent.length)

/-- Waits as long as needed and takes a token: the instant at which it is taken. -/
def acquire (l : RateLimiter) (now : Instant) : Instant × RateLimiter :=
  match l.attempt now with
  | (.granted, l) => (now, l)
  | (.wait time, l) =>
    let later := now.add time
    (later, (l.attempt later).2)

end RateLimiter

end DeviceWatch
