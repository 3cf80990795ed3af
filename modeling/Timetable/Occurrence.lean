import Timetable.Number.Binary64
import Timetable.Rule
import Timetable.Zone

/-! The runs of a rule: the times at which it fires in a zone.

Days are taken in order from the local day of a given moment. On each day that the rule matches,
the candidates are the hours, minutes and seconds that it generates, in order. A candidate is a run
if it is later than the moment, as an instant, and if clocks in the zone do show it.
-/

set_option autoImplicit false

namespace Timetable

namespace Rule

def anyMatches (value : Int) : List Field → Except Fault Bool
  | [] => .ok false
  | field :: rest =>
    match field.matchesValue value with
    | .error fault => .error fault
    | .ok true => .ok true
    | .ok false => anyMatches value rest

/-- Whether the rule matches a date in each of the listed parts; later ones are not asked once one
fails. -/
def matchesParts (rule : Rule) (date : Date) : List Part → Except Fault Bool
  | [] => .ok true
  | part :: rest =>
    match anyMatches ((date.part? part).getD 0) (rule.get part) with
    | .error fault => .error fault
    | .ok false => .ok false
    | .ok true => matchesParts rule date rest

def matchesDate (rule : Rule) (date : Date) : Except Fault Bool :=
  rule.matchesParts date Part.ofDate

def insertIncreasing (n : Int) : List Int → List Int
  | [] => [n]
  | m :: rest =>
    if n < m then n :: m :: rest
    else if n = m then m :: rest
    else m :: insertIncreasing n rest

def generated (part : Part) : List Field → Except Fault (List Int)
  | [] => .ok []
  | field :: rest =>
    match field.values part with
    | .error fault => .error fault
    | .ok values => (generated part rest).map (values ++ ·)

/-- The numbers that the rule generates for a part, each once, in increasing order. -/
def candidates (rule : Rule) (part : Part) : Except Fault (List Int) :=
  (generated part (rule.get part)).map fun values => values.foldr insertIncreasing []

def candidatesNamed (rule : Rule) (name : String) : Except Fault (List Int) :=
  match Part.ofName? name with
  | some part => rule.candidates part
  | none => .error (.unknownPart name)

end Rule

structure Clock where
  hour : Int
  minute : Int
  second : Int
  deriving DecidableEq, Repr

def Clock.combinations (hours minutes seconds : List Int) : List Clock :=
  hours.flatMap fun hour => minutes.flatMap fun minute => seconds.map fun second =>
    ⟨hour, minute, second⟩

/-- Runs in order, and the fault that cut the search for more, if one did. -/
structure Runs where
  times : List DateTime
  fault : Option Fault

namespace Runs

def none : Runs := ⟨[], .none⟩

def cut (fault : Fault) : Runs := ⟨[], some fault⟩

def cons (time : DateTime) (runs : Runs) : Runs :=
  { runs with times := time :: runs.times }

def complete (runs : Runs) : Except Fault (List DateTime) :=
  match runs.fault with
  | .none => .ok runs.times
  | some fault => .error fault

/-- The first run; a fault counts only if no run came before it. -/
def first (runs : Runs) : Except Fault (Option DateTime) :=
  match runs.times, runs.fault with
  | time :: _, _ => .ok (some time)
  | [], .none => .ok .none
  | [], some fault => .error fault

end Runs

structure Search where
  rule : Rule
  zone : Zone
  /-- Runs have to be later. -/
  after : Instant
  firstDay : Date
  clocks : List Clock

namespace Search

def runAt (search : Search) (date : Date) (clock : Clock) : Except Fault (Option DateTime) := do
  let wall ← Wall.atTime date clock.hour clock.minute clock.second
  let time : DateTime := ⟨wall, some search.zone, false⟩
  let instant ← time.instant
  if instant ≤ search.after then return none
  match search.zone with
  -- Only a named zone leaves readings out.
  | .fixed _ => return some time
  | .named _ => return if ← wall.isSkipped search.zone then none else some time

def runsOn (search : Search) (date : Date) (limit : Nat) : List Clock → Runs
  | [] => .none
  | clock :: rest =>
    if limit = 0 then .none
    else
      match search.runAt date clock with
      | .error fault => .cut fault
      | .ok none => search.runsOn date limit rest
      | .ok (some time) => (search.runsOn date (limit - 1) rest).cons time

/-- The first `limit` runs within a number of days, of which the first comes `passed` days after the
first day of the search. -/
def runsFrom (search : Search) (limit passed : Nat) : Nat → Runs
  | 0 => .none
  | days + 1 =>
    if limit = 0 then .none
    else
      match search.firstDay.plusDays passed with
      | .error fault => .cut fault
      | .ok date =>
        match search.rule.matchesDate date with
        | .error fault => .cut fault
        | .ok false => search.runsFrom limit (passed + 1) days
        | .ok true =>
          let today := search.runsOn date limit search.clocks
          -- The runs that came before a fault on the same day are kept.
          match today.fault with
          | some _ => today
          | none =>
            let later := search.runsFrom (limit - today.times.length) (passed + 1) days
            ⟨today.times ++ later.times, later.fault⟩

/-- The search for the runs of a rule after a time; there is none where the rule generates no time
of day. -/
def after? (rule : Rule) (time : DateTime) : Except Fault (Option Search) := do
  let hours ← rule.candidates .hour
  let minutes ← rule.candidates .minute
  let seconds ← rule.candidates .second
  -- This comes before the time is converted, which may be a fault.
  if hours.isEmpty || minutes.isEmpty || seconds.isEmpty then return none
  let instant ← time.instant
  return some {
    rule
    zone := time.zone.getD .universal
    after := instant
    firstDay := time.wall.date
    clocks := Clock.combinations hours minutes seconds }

end Search

/-- Days that a search looks ahead unless it is told otherwise: two years. -/
def defaultHorizon : Nat := 732

namespace Rule

/-- The first `limit` runs after a time, on its local day and the `horizon - 1` days that follow. -/
def runs (rule : Rule) (time : DateTime) (horizon limit : Nat) : Runs :=
  match Search.after? rule time with
  | .error fault => .cut fault
  | .ok none => .none
  | .ok (some search) => search.runsFrom limit 0 horizon

def allRuns (rule : Rule) (time : DateTime) (horizon : Nat) : Runs :=
  -- No day has more runs than seconds.
  rule.runs time horizon (horizon * 86400)

def nextRun (rule : Rule) (time : DateTime) : Except Fault (Option DateTime) :=
  (rule.runs time defaultHorizon 1).first

end Rule

/-- A time as a point from which runs are sought: the clock's where none is given, in the given zone
where it has none, and converted where both have one. Without any zone it is in that of the
machine. -/
def resolve (clock : Instant) (time : Option DateTime) (zone : Option Zone)
    (machine : MachineZone := .universal) : Except Fault DateTime :=
  match time with
  | none =>
    match zone with
    | none => (Zone.ofMachine clock machine).bind fun zone => DateTime.ofInstant zone clock
    | some zone => DateTime.ofInstant zone clock
  | some time =>
    match time.zone, zone with
    | none, none =>
      (Zone.ofMachine clock machine).map fun zone => { time with zone := some zone }
    | none, some zone => .ok { time with zone := some zone }
    | some _, none => .ok time
    | some _, some zone => time.inZone zone

namespace Rule

def greatestCount : Int := 9223372036854775807

def simulate (rule : Rule) (clock : Instant) (count : Int) (time : Option DateTime)
    (zone : Option Zone) (horizon : Int) (machine : MachineZone := .universal) :
    Except Fault (List DateTime) :=
  if count ≤ 0 then .ok []
  else if greatestCount < count then .error .countAbove
  else do
    let start ← resolve clock time zone machine
    (rule.runs start horizon.toNat count.toNat).complete

def next (rule : Rule) (clock : Instant) (time : Option DateTime) (zone : Option Zone)
    (machine : MachineZone := .universal) : Except Fault (Option DateTime) := do
  rule.nextRun (← resolve clock time zone machine)

def walk (rule : Rule) (clock : Instant) (time : Option DateTime) (count : Nat)
    (zone : Option Zone := none) (machine : MachineZone := .universal) :
    Except Fault (List (Option DateTime)) :=
  match count with
  | 0 => .ok []
  | count + 1 => do
    match ← rule.next clock time zone machine with
    | none => return [none]
    | some run => return some run :: (← rule.walk clock (some run) count zone machine)

end Rule

/-- Microseconds until a time, none once it has come. A time without a zone is compared with what the
clock of the machine shows. The clock has to lie in the calendar too. -/
def untilDue (clock : Instant) (time : Option DateTime) (machine : MachineZone := .universal) :
    Except Fault Int := do
  let some time := time | throw .noTime
  if time.zone.isSome then
    let due ← time.instant
    let present ← Wall.ofMicros clock
    return max (due - present.micros) 0
  else
    let present ← Wall.ofMicros (clock + machine.offset * secondMicros)
    return max (time.wall.micros - present.micros) 0

def throughSeconds (micros : Int) : Int :=
  ((Binary64.ofIntRatio micros secondMicros).times secondMicros).scaled 1

end Timetable
