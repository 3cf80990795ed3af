import Timetable.Calendar.Wall

/-! Time zones.

A zone assigns an offset to every instant. The offset of a named zone changes at the transitions
that are listed for it and then, in many zones, twice a year by a rule. A reading of a wall clock
may be shown twice, when the offset falls, or never, when it rises.
-/

set_option autoImplicit false

namespace Timetable

/-- An instant, in microseconds of universal time since 0001-01-01T00:00:00. -/
abbrev Instant := Int

/-- From the instant `second` (in seconds) on, the offset from universal time is `offset`
seconds. -/
structure Transition where
  second : Int
  offset : Int
  deriving DecidableEq, Repr

def Transition.atUniversal (year month day hour minute : Nat) (offset : Int) : Transition where
  second := ((dayNumber year month day : Int) - 1) * 86400 + (hour * 3600 + minute * 60 : Nat)
  offset := offset

/-- A weekday of a month, with a time of day in seconds: the occurrence numbered `week` of the
weekday, the fifth being the last one. Sunday is weekday zero. -/
structure YearlyTime where
  month : Nat
  week : Nat
  weekday : Nat
  time : Int
  deriving DecidableEq, Repr

def YearlyTime.dayNumber (yearly : YearlyTime) (year : Nat) : Nat :=
  let first := Timetable.dayNumber year yearly.month 1
  let occurrence := first + (yearly.weekday + 7 - first % 7) % 7 + 7 * (yearly.week - 1)
  -- The fifth occurrence is the fourth one where the month has no fifth.
  if first + daysInMonth (isLeap year) yearly.month ≤ occurrence then occurrence - 7 else occurrence

def YearlyTime.localSecond (yearly : YearlyTime) (year : Nat) : Int :=
  ((yearly.dayNumber year : Int) - 1) * 86400 + yearly.time

/-- Two offsets that alternate from the year `since` on. Summer begins by standard time and ends by
summer time. -/
structure Seasons where
  since : Nat
  standard : Int
  summer : Int
  begins : YearlyTime
  ends : YearlyTime
  deriving DecidableEq, Repr

def Seasons.transitions (seasons : Seasons) (year : Nat) : List Transition :=
  if year < seasons.since then []
  else
    let toSummer : Transition :=
      ⟨seasons.begins.localSecond year - seasons.standard, seasons.summer⟩
    let toStandard : Transition :=
      ⟨seasons.ends.localSecond year - seasons.summer, seasons.standard⟩
    -- South of the equator summer ends before it begins.
    if toSummer.second ≤ toStandard.second then [toSummer, toStandard] else [toStandard, toSummer]

structure NamedZone where
  name : String
  initial : Int
  listed : List Transition
  seasons : Option Seasons
  deriving DecidableEq, Repr

def NamedZone.transitions (zone : NamedZone) (years : List Nat) : List Transition :=
  zone.listed ++
    match zone.seasons with
    | none => []
    | some seasons => years.flatMap seasons.transitions

/-- The offset after the transitions that have been reached, the first of which changes the offset
`before`. -/
def offsetAfter (reached : Int → Transition → Bool) (before : Int) : List Transition → Int
  | [] => before
  | transition :: rest =>
    if reached before transition then offsetAfter reached transition.offset rest else before

/-- The years whose transitions can decide an offset in a given year. -/
def yearsFor (year : Nat) : List Nat :=
  [year - 1, year]

def NamedZone.offsetAt (zone : NamedZone) (year : Nat) (instant : Instant) : Int :=
  offsetAfter (fun _ transition => decide (transition.second * secondMicros ≤ instant)) zone.initial
    (zone.transitions (yearsFor year))

/-- The offset of a reading of the given year. A reading that is shown twice is the first of the
two, and one that is never shown is taken by the offset before; with `fold` it is the second of the
two, or taken by the offset after. -/
def NamedZone.offsetOf (zone : NamedZone) (year : Nat) (fold : Bool) (reading : Nat) : Int :=
  let reached (before : Int) (transition : Transition) : Bool :=
    -- Clocks that are put back show the readings between the two offsets twice, and those that
    -- are put forward never show them.
    let shown := if fold then min before transition.offset else max before transition.offset
    decide ((transition.second + shown) * secondMicros ≤ (reading : Int))
  offsetAfter reached zone.initial (zone.transitions (yearsFor year))

inductive Zone where
  | fixed (offset : Int)
  | named (zone : NamedZone)
  deriving DecidableEq, Repr

namespace Zone

def universal : Zone := .fixed 0

def yearOf (micros : Nat) : Nat :=
  yearOfDay (micros / dayMicros + 1)

def offsetAt (zone : Zone) (instant : Instant) : Int :=
  match zone with
  | .fixed offset => offset
  | .named zone => zone.offsetAt (yearOf instant.toNat) instant

def offsetOf (zone : Zone) (fold : Bool) (wall : Wall) : Int :=
  match zone with
  | .fixed offset => offset
  | .named zone => zone.offsetOf (yearOf wall.micros) fold wall.micros

end Zone

structure MachineZone where
  offset : Int
  name : String
  short : -86400 < offset ∧ offset < 86400
  deriving DecidableEq, Repr

namespace MachineZone

def universal : MachineZone := ⟨0, "UTC", by decide⟩

def zone (machine : MachineZone) : Zone :=
  .fixed machine.offset

def reading (machine : MachineZone) (instant : Instant) : Except Fault Wall :=
  let micros := instant + machine.offset * secondMicros
  if micros < 0 then .error (.noSuchYear 0)
  else if calendarMicros ≤ micros then .error (.noSuchYear 10000)
  else Wall.ofMicros micros

/-- The instant of a reading of the clock. Where the offset changes is sought from the reading taken
as universal time, and from a day before the instant, or with `fold` a day after it. -/
def instantOf (machine : MachineZone) (wall : Wall) (fold : Bool) : Except Fault Instant := do
  let _ ← machine.reading wall.micros
  let instant := wall.micros - machine.offset * secondMicros
  let _ ← machine.reading (if fold then instant + dayMicros else instant - dayMicros)
  return instant

end MachineZone

/-- A reading in a zone, or without one. `fold` tells the second showing of a reading from the
first. -/
structure DateTime where
  wall : Wall
  zone : Option Zone
  fold : Bool
  deriving DecidableEq, Repr

namespace DateTime

instance : Inhabited DateTime := ⟨⟨default, none, false⟩⟩

/-- The offset in seconds; a reading without a zone has none. -/
def offset? (time : DateTime) : Option Int :=
  time.zone.map fun zone => zone.offsetOf time.fold time.wall

/-- The instant of a reading, which has to lie in the calendar of universal time. A reading without
a zone belongs to the machine. -/
def instant (time : DateTime) (machine : MachineZone := .universal) : Except Fault Instant :=
  match time.offset? with
  | none => do
    let instant ← machine.instantOf time.wall time.fold
    (Wall.ofMicros instant).map fun wall => (wall.micros : Int)
  | some offset =>
    (Wall.ofMicros (time.wall.micros - offset * secondMicros)).map fun wall => (wall.micros : Int)

def ofInstant (zone : Zone) (instant : Instant) : Except Fault DateTime :=
  let offset := zone.offsetAt instant
  (Wall.ofMicros (instant + offset * secondMicros)).map fun wall =>
    -- A reading whose first offset is another one is shown for the second time.
    ⟨wall, some zone, decide (zone.offsetOf false wall ≠ offset)⟩

def offsetText (offset : Int) : String :=
  let seconds := offset.natAbs
  (if offset < 0 then "-" else "+") ++ Text.padded 2 (seconds / 3600) ++ ":" ++
    Text.padded 2 (seconds / 60 % 60) ++
    (if seconds % 60 = 0 then "" else ":" ++ Text.padded 2 (seconds % 60))

def textWith (separator : String) (time : DateTime) : String :=
  time.wall.text separator ++ (time.offset?.map offsetText).getD ""

def iso (time : DateTime) : String :=
  time.textWith "T"

/-- The same instant in another zone. In its own named zone a time stays as it is, even where its
reading is never shown. -/
def inZone (time : DateTime) (zone : Zone) : Except Fault DateTime :=
  match time.zone, zone with
  | some (.named own), .named other =>
    -- A reading that is never shown would come back changed.
    if own = other then .ok time else time.instant.bind (ofInstant zone)
  | _, _ => time.instant.bind (ofInstant zone)

end DateTime

/-- Whether a reading is never shown in a zone, which is that of the machine if none is given: taken
as an instant by its first offset, it comes back changed. -/
def Wall.isSkipped (wall : Wall) (zone : Option Zone) (machine : MachineZone := .universal) :
    Except Fault Bool := do
  let instant ← DateTime.instant ⟨wall, zone, false⟩ machine
  let shown ← DateTime.ofInstant (zone.getD machine.zone) instant
  return decide (shown.wall ≠ wall)

/-- The zone of the machine, which is found from what its clock shows. -/
def Zone.ofMachine (clock : Instant) (machine : MachineZone := .universal) :
    Except Fault Zone := do
  let wall ← machine.reading clock
  let _ ← DateTime.instant ⟨wall, none, false⟩ machine
  return machine.zone

end Timetable
