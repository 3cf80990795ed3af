import Timetable.Zone

/-! The named zones, from 2010 on. -/

set_option autoImplicit false

namespace Timetable.Zone

def universalTime (year month day hour minute : Nat) (minutes : Int) : Transition :=
  .atUniversal year month day hour minute (minutes * 60)

def sunday (month week hour : Nat) : YearlyTime :=
  ⟨month, week, 0, (hour * 3600 : Nat)⟩

def steady (name : String) (minutes : Int) : NamedZone :=
  ⟨name, minutes * 60, [], none⟩

/-- A zone with seasons from 2010 on. Offsets are in minutes; `initial` is the one in force before
the first transition. -/
def seasonal (name : String) (initial standard summer : Int) (begins ends : YearlyTime) :
    NamedZone :=
  ⟨name, initial * 60, [], some ⟨2010, standard * 60, summer * 60, begins, ends⟩⟩

def newYork : NamedZone :=
  seasonal "America/New_York" (-300) (-300) (-240) (sunday 3 2 2) (sunday 11 1 2)

def london : NamedZone :=
  seasonal "Europe/London" 0 0 60 (sunday 3 5 1) (sunday 10 5 2)

def dublin : NamedZone :=
  seasonal "Europe/Dublin" 0 0 60 (sunday 3 5 1) (sunday 10 5 2)

def berlin : NamedZone :=
  seasonal "Europe/Berlin" 60 60 120 (sunday 3 5 2) (sunday 10 5 3)

def lordHowe : NamedZone :=
  seasonal "Australia/Lord_Howe" 660 630 660 (sunday 10 1 2) (sunday 4 1 2)

def beirut : NamedZone :=
  seasonal "Asia/Beirut" 120 120 180 (sunday 3 5 0) (sunday 10 5 0)

def auckland : NamedZone :=
  seasonal "Pacific/Auckland" 780 720 780 (sunday 9 5 2) (sunday 4 1 3)

def stJohns : NamedZone where
  name := "America/St_Johns"
  initial := -210 * 60
  listed := [
    universalTime 2010 11 7 2 31 (-210),
    universalTime 2011 3 13 3 31 (-150)]
  seasons := some ⟨2011, -210 * 60, -150 * 60, sunday 3 2 2, sunday 11 1 2⟩

def saoPaulo : NamedZone where
  name := "America/Sao_Paulo"
  initial := -120 * 60
  listed := [
    universalTime 2010 2 21 2 0 (-180),
    universalTime 2010 10 17 3 0 (-120),
    universalTime 2011 2 20 2 0 (-180),
    universalTime 2011 10 16 3 0 (-120),
    universalTime 2012 2 26 2 0 (-180),
    universalTime 2012 10 21 3 0 (-120),
    universalTime 2013 2 17 2 0 (-180),
    universalTime 2013 10 20 3 0 (-120),
    universalTime 2014 2 16 2 0 (-180),
    universalTime 2014 10 19 3 0 (-120),
    universalTime 2015 2 22 2 0 (-180),
    universalTime 2015 10 18 3 0 (-120),
    universalTime 2016 2 21 2 0 (-180),
    universalTime 2016 10 16 3 0 (-120),
    universalTime 2017 2 19 2 0 (-180),
    universalTime 2017 10 15 3 0 (-120),
    universalTime 2018 2 18 2 0 (-180),
    universalTime 2018 11 4 3 0 (-120),
    universalTime 2019 2 17 2 0 (-180)]
  seasons := none

def apia : NamedZone where
  name := "Pacific/Apia"
  initial := -660 * 60
  listed := [
    universalTime 2010 9 26 11 0 (-600),
    universalTime 2011 4 2 14 0 (-660),
    universalTime 2011 9 24 14 0 (-600),
    universalTime 2011 12 30 10 0 840,
    universalTime 2012 3 31 14 0 780,
    universalTime 2012 9 29 14 0 840,
    universalTime 2013 4 6 14 0 780,
    universalTime 2013 9 28 14 0 840,
    universalTime 2014 4 5 14 0 780,
    universalTime 2014 9 27 14 0 840,
    universalTime 2015 4 4 14 0 780,
    universalTime 2015 9 26 14 0 840,
    universalTime 2016 4 2 14 0 780,
    universalTime 2016 9 24 14 0 840,
    universalTime 2017 4 1 14 0 780,
    universalTime 2017 9 23 14 0 840,
    universalTime 2018 3 31 14 0 780,
    universalTime 2018 9 29 14 0 840,
    universalTime 2019 4 6 14 0 780,
    universalTime 2019 9 28 14 0 840,
    universalTime 2020 4 4 14 0 780,
    universalTime 2020 9 26 14 0 840,
    universalTime 2021 4 3 14 0 780]
  seasons := none

def allNamed : List NamedZone :=
  [newYork, london, dublin, berlin, lordHowe, beirut, stJohns, saoPaulo, apia,
    steady "Asia/Kathmandu" 345, steady "Asia/Tokyo" 540, auckland, steady "Pacific/Kiritimati" 840,
    steady "Etc/UTC" 0, steady "UTC" 0]

def ofName? (name : String) : Option NamedZone :=
  allNamed.find? fun zone => decide (zone.name = name)

end Timetable.Zone
