/-!
# SurveyIntake.Time.Instant

Instants in milliseconds since the beginning of 1970, within the years that have dates.

* `Instant`          — a number of milliseconds from the beginning of the year -262143 up to the end of
  262142.
* `Instant.earlier?` — the instant some milliseconds before.
* `Retention`        — how long pending submissions are kept: for ever, or up to an age in milliseconds.
* `Retention.cutoff` — the instant before which submissions have expired. Where it is out of range,
  none have.
-/

namespace SurveyIntake

def firstMillis : Int := -8334601228800000

def lastMillis : Int := 8210266876799999

structure Instant where
  millis : Int
  le_millis : firstMillis ≤ millis
  millis_le : millis ≤ lastMillis
  deriving DecidableEq

namespace Instant

def ofMillis? (millis : Int) : Option Instant :=
  if h : firstMillis ≤ millis ∧ millis ≤ lastMillis then some ⟨millis, h.1, h.2⟩ else none

def epoch : Instant := ⟨0, by decide, by decide⟩

instance : Inhabited Instant := ⟨epoch⟩

/-- The instant `age` milliseconds before, if it is in range. -/
def earlier? (i : Instant) (age : Int) : Option Instant := ofMillis? (i.millis - age)

end Instant

inductive Retention where
  | keepAll
  | maxAge (millis : Int)
  deriving DecidableEq

namespace Retention

def hourMillis : Nat := 3600000

def hours (n : Nat) : Retention := .maxAge (n * hourMillis)

def cutoff (now : Instant) : Retention → Option Instant
  | .keepAll => none
  | .maxAge millis => now.earlier? millis

end Retention
end SurveyIntake
