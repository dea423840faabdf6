import SentinelEdge.Domain.Platform

/-! # Timestamps with an offset

An aware `datetime` is an instant with an offset from UTC. Two of them compare by
their instants; their texts show the wall clock and the offset.
-/

namespace SentinelEdge.Domain

/-- Both in microseconds. -/
structure Timestamp where
  instant : DateTime
  utcOffset : Int := 0
  deriving DecidableEq, Repr

namespace Timestamp

/-- Microseconds since 1970-01-01T00:00 on the clock at that offset. -/
def wallClock (t : Timestamp) : Int := t.instant + t.utcOffset

/-- `datetime.min`, with `DateTime.max` the last one. -/
def earliest : Int := -62135596800000000

/-- `t + delta`, which raises past the first or the last year. -/
def add (t : Timestamp) (delta : Int) : Except Error Timestamp :=
  if t.wallClock + delta < earliest ∨ DateTime.max < t.wallClock + delta then .error .overflowError
  else .ok { t with instant := t.instant + delta }

theorem add_eq_ok {t t' : Timestamp} {delta : Int} (added : t.add delta = .ok t') : t'.instant = t.instant + delta := by
  unfold add at added
  split at added
  · cases added
  · cases added
    rfl

/-- The last `width` decimal digits. -/
def digits : Nat → Nat → List Char
  | 0, _ => []
  | width + 1, n => digits width (n / 10) ++ [Char.ofNat (48 + n % 10)]

/-- Year, month and day, from the number of days since 1970-01-01; the years are
    counted from March. -/
def civil (days : Int) : Nat × Nat × Nat :=
  let era := (days + 719468) / 146097
  let day := ((days + 719468) % 146097).toNat
  let yearOfEra := (day - day / 1460 + day / 36524 - day / 146096) / 365
  let dayOfYear := day - (365 * yearOfEra + yearOfEra / 4 - yearOfEra / 100)
  let month := (5 * dayOfYear + 2) / 153
  let year := (yearOfEra + era * 400).toNat
  (if month < 10 then year else year + 1, if month < 10 then month + 3 else month - 9,
    dayOfYear - (153 * month + 2) / 5 + 1)

/-- The fraction of a second, which is left out when it is zero. -/
def fraction (microseconds : Nat) : List Char :=
  if microseconds = 0 then [] else '.' :: digits 6 microseconds

/-- Hours, minutes and seconds, from microseconds. -/
def clock (microseconds : Nat) : Nat × Nat × Nat :=
  (microseconds / 3600000000, microseconds / 60000000 % 60, microseconds / 1000000 % 60)

def offsetText (offset : Int) : List Char :=
  let (hours, minutes, seconds) := clock offset.natAbs
  let rest := offset.natAbs % 60000000
  (if offset < 0 then '-' else '+') :: digits 2 hours ++ ':' :: digits 2 minutes ++
    if rest = 0 then [] else ':' :: digits 2 seconds ++ fraction (rest % 1000000)

/-- `isoformat()` -/
def isoformat (t : Timestamp) : String :=
  let (year, month, day) := civil (t.wallClock / 86400000000)
  let time := (t.wallClock % 86400000000).toNat
  let (hours, minutes, seconds) := clock time
  String.ofList (digits 4 year ++ '-' :: digits 2 month ++ '-' :: digits 2 day ++ 'T' :: digits 2 hours ++
    ':' :: digits 2 minutes ++ ':' :: digits 2 seconds ++ fraction (time % 1000000) ++ offsetText t.utcOffset)

example : isoformat ⟨1786615200500000, 7200000000⟩ = "2026-08-13T12:00:00.500000+02:00" := by decide +kernel

end Timestamp

end SentinelEdge.Domain
