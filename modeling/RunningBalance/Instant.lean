import RunningBalance.Calendar

/-!
# Instants

An instant is a whole second since 1970-01-01T00:00:00Z and the nanoseconds into it. A leap second
has no second of its own: it continues the one before, with a thousand million nanoseconds and more.
Instants are ordered by the second and then by the nanoseconds, which puts a leap second between its
neighbours.
-/

set_option autoImplicit false
set_option relaxedAutoImplicit false

namespace RunningBalance

structure Instant where
  seconds : Int
  nanos : Nat
  deriving DecidableEq, Repr

namespace Instant

instance : LE Instant where
  le a b := a.seconds < b.seconds ∨ a.seconds = b.seconds ∧ a.nanos ≤ b.nanos

instance : LT Instant where
  lt a b := a.seconds < b.seconds ∨ a.seconds = b.seconds ∧ a.nanos < b.nanos

theorem le_def {a b : Instant} :
    a ≤ b ↔ a.seconds < b.seconds ∨ a.seconds = b.seconds ∧ a.nanos ≤ b.nanos :=
  Iff.rfl

theorem lt_def {a b : Instant} :
    a < b ↔ a.seconds < b.seconds ∨ a.seconds = b.seconds ∧ a.nanos < b.nanos :=
  Iff.rfl

instance (a b : Instant) : Decidable (a ≤ b) :=
  decidable_of_iff _ le_def.symm

instance (a b : Instant) : Decidable (a < b) :=
  decidable_of_iff _ lt_def.symm

theorem le_refl (a : Instant) : a ≤ a :=
  le_def.2 (.inr ⟨rfl, Nat.le_refl _⟩)

theorem le_trans {a b c : Instant} (hab : a ≤ b) (hbc : b ≤ c) : a ≤ c := by
  simp only [le_def] at *
  omega

theorem le_total (a b : Instant) : a ≤ b ∨ b ≤ a := by
  simp only [le_def]
  omega

theorem le_antisymm {a b : Instant} (hab : a ≤ b) (hba : b ≤ a) : a = b := by
  cases a
  cases b
  simp only [le_def, mk.injEq] at *
  omega

theorem not_le {a b : Instant} : ¬a ≤ b ↔ b < a := by
  simp only [le_def, lt_def]
  omega

def secondsPerDay : Int :=
  86400

def nanosPerSecond : Nat :=
  1000000000

/-- The years an instant may fall in. -/
def firstYear : Int :=
  -262143

def lastYear : Int :=
  262142

/-- Whether the instant falls in a supported year. -/
def isSupported (instant : Instant) : Bool :=
  Date.daysBeforeYear firstYear ≤ instant.seconds / secondsPerDay + Date.daysBeforeEpoch &&
    instant.seconds / secondsPerDay + Date.daysBeforeEpoch < Date.daysBeforeYear (lastYear + 1)

/-- The day that an instant falls on, in UTC. -/
def date (instant : Instant) : Date :=
  Date.ofDayNumber (instant.seconds / secondsPerDay)

/-- The seconds since the start of its day, a leap second counted as the one it continues. -/
def secondOfDay (instant : Instant) : Nat :=
  (instant.seconds % secondsPerDay).toNat

/-- The nanoseconds beyond the last whole second, also within a leap second. -/
def subsecond (instant : Instant) : Nat :=
  instant.nanos % nanosPerSecond

end Instant

end RunningBalance
