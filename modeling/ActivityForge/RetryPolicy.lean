/-!
# Retry policies

How the executing runtime spaces the attempts of an activity.  The policy of an activity depends
on nothing but whether it is idempotent.
-/

namespace ActivityForge

structure RetryPolicy where
  initialIntervalSecs : Nat
  maximumIntervalSecs : Nat
  /-- The factor between two intervals, in tenths. -/
  backoffTenths : Nat
  maximumAttempts : Nat
deriving DecidableEq, Repr, Inhabited

namespace RetryPolicy

/-- The general preset, which no activity gets by itself. -/
def standard : RetryPolicy := ⟨1, 100, 20, 3⟩

/-- The preset for activities that can be repeated without harm. -/
def repeatable : RetryPolicy := ⟨1, 300, 20, 5⟩

/-- The preset for activities whose repetition may have effects of its own. -/
def cautious : RetryPolicy := ⟨2, 60, 15, 2⟩

def ofIdempotency (idempotent : Bool) : RetryPolicy := if idempotent then repeatable else cautious

/-- The backoff coefficient with one decimal place. -/
def backoffText (p : RetryPolicy) : String :=
  toString (p.backoffTenths / 10) ++ "." ++ toString (p.backoffTenths % 10)

end RetryPolicy

/-- Seconds within which an activity has to be done, retries included. -/
def scheduleToCloseSecs : Nat := 300

end ActivityForge
