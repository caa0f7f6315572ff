/-!
# Relative times

A time span in seconds is split into counts of units. Each unit in turn takes as many of itself as
fit into what is left; units that do not fit are left out. The counts have the sign of the span.
-/

namespace Phrasebook

/-- A unit of time. -/
inductive TimeUnit where
  | year
  | month
  | week
  | day
  | hour
  | minute
  | second
  deriving DecidableEq, Repr

namespace TimeUnit

/-- The length in seconds; a month has thirty days and a year 365. -/
def seconds : TimeUnit → Nat
  | year => 31536000
  | month => 2592000
  | week => 604800
  | day => 86400
  | hour => 3600
  | minute => 60
  | second => 1

/-- The name of a unit. -/
def name : TimeUnit → String
  | year => "year"
  | month => "month"
  | week => "week"
  | day => "day"
  | hour => "hour"
  | minute => "minute"
  | second => "second"

/-- All units, from the longest to the shortest. -/
def all : List TimeUnit :=
  [year, month, week, day, hour, minute, second]

/-- The unit of a name. -/
def ofName? (s : String) : Option TimeUnit :=
  all.find? (·.name = s)

/-- The units to use when none are named; minutes are not among them. -/
def common : List TimeUnit :=
  [year, month, week, day, hour, second]

end TimeUnit

namespace RelativeTime

/-- A magnitude with a sign, in 64 bits; beyond them, the nearest count that fits. -/
def signedCount (negative : Bool) (count : Nat) : Int64 :=
  if negative then Int64.ofInt (max (-count) Int64.minValue.toInt)
  else Int64.ofInt (min count Int64.maxValue.toInt)

/-- Split a magnitude into counts of units that are not zero. -/
def split (negative : Bool) : Nat → List TimeUnit → List (Int64 × TimeUnit)
  | _, [] => []
  | left, u :: rest =>
    if left / u.seconds = 0 then split negative left rest
    else (signedCount negative (left / u.seconds), u) :: split negative (left % u.seconds) rest

/-- Split a time span into sections. -/
def sections (span : Int64) (units : List TimeUnit) : List (Int64 × TimeUnit) :=
  split (span.toInt < 0) span.toInt.natAbs units

/-- The sections of a time span, each written by `write`, with commas between them. -/
def format (span : Int64) (units : Option (List TimeUnit)) (write : Int64 → TimeUnit → String) :
    String :=
  ", ".intercalate ((sections span (units.getD TimeUnit.common)).map fun (n, u) => write n u)

/-- A count of one unit in English: `in 2 days`, `1 hour ago`. -/
def english (n : Int64) (u : TimeUnit) : String :=
  let count := n.toInt.natAbs
  let words := toString count ++ " " ++ u.name ++ (if count = 1 then "" else "s")
  if n.toInt < 0 then words ++ " ago" else "in " ++ words

end RelativeTime

end Phrasebook
