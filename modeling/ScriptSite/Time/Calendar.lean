import ScriptSite.Text.Basic

/-!
# Dates and times

Days of the calendar from the year one to the year 9999, and times of a day down to a millionth of a
second, perhaps with their distance from universal time, which is less than a day. A time has two
forms: a plain one, and one that spells out how it is built, which is used where it stands among
other values.
-/

namespace ScriptSite

/-- A day of the calendar. -/
structure Date where
  year : Nat
  month : Nat
  day : Nat
  deriving DecidableEq, Repr

/-- A time on a day. `offset` is the distance from universal time in minutes. -/
structure Moment where
  date : Date
  hour : Nat
  minute : Nat
  second : Nat
  micro : Nat
  offset : Option Int
  deriving DecidableEq, Repr

/-- The digits of a number with zeros in front, at least `width` of them. -/
def Text.padded (width n : Nat) : Text :=
  let digits := Text.ofNat n
  List.replicate (width - digits.length) '0' ++ digits

namespace Date

def isLeap (year : Nat) : Bool :=
  year % 4 == 0 && (year % 100 != 0 || year % 400 == 0)

def daysIn (year month : Nat) : Nat :=
  if month = 2 then (if isLeap year then 29 else 28)
  else if month = 4 ∨ month = 6 ∨ month = 9 ∨ month = 11 then 30
  else 31

/-- Whether there is such a day. -/
def isValid (date : Date) : Bool :=
  1 ≤ date.year && date.year ≤ 9999 && 1 ≤ date.month && date.month ≤ 12 && 1 ≤ date.day &&
    date.day ≤ daysIn date.year date.month

/-- The plain form of a day. -/
def toText (date : Date) : Text :=
  Text.padded 4 date.year ++ '-' :: Text.padded 2 date.month ++ '-' :: Text.padded 2 date.day

/-- The numbers of a day. -/
def parts (date : Date) : List Nat :=
  [date.year, date.month, date.day]

/-- The form of a day that spells out its parts. -/
def shown (date : Date) : Text :=
  "datetime.date(".toList ++ Text.joinWith [',', ' '] (date.parts.map Text.ofNat) ++ [')']

/-- The number of days before a day, from the first of January of the year one on. -/
def number (date : Date) : Nat :=
  let years := date.year - 1
  let months := (List.range (date.month - 1)).foldr
    (fun month days => daysIn date.year (month + 1) + days) 0
  years * 365 + years / 4 - years / 100 + years / 400 + months + (date.day - 1)

end Date

namespace Moment

def minutesOfDay : Int :=
  1440

/-- Whether there is such a time. -/
def isValid (moment : Moment) : Bool :=
  moment.date.isValid && moment.hour < 24 && moment.minute < 60 && moment.second < 60 &&
    moment.offset.all fun offset => -minutesOfDay < offset && offset < minutesOfDay

/-- A distance from universal time in hours and minutes. -/
def offsetText (offset : Int) : Text :=
  (if offset < 0 then '-' else '+') :: Text.padded 2 (offset.natAbs / 60) ++
    ':' :: Text.padded 2 (offset.natAbs % 60)

/-- The plain form of a time. -/
def toText (moment : Moment) : Text :=
  moment.date.toText ++ ' ' :: Text.padded 2 moment.hour ++ ':' :: Text.padded 2 moment.minute ++
    ':' :: Text.padded 2 moment.second ++
    (if moment.micro = 0 then [] else '.' :: Text.padded 6 moment.micro) ++
    (moment.offset.map offsetText).getD []

/-- A distance from universal time as it is shown: whole days, of which there is a negative one
before universal time, and seconds. -/
def shownOffset (offset : Int) : Text :=
  let days := offset.fdiv minutesOfDay
  let seconds := offset.fmod minutesOfDay * 60
  let parts := (if days = 0 then [] else ["days=".toList ++ Text.ofInt days]) ++
    (if seconds = 0 then [] else ["seconds=".toList ++ Text.ofInt seconds])
  if offset = 0 then "datetime.timezone.utc".toList
  else
    "datetime.timezone(datetime.timedelta(".toList ++ Text.joinWith [',', ' '] parts ++
      "))".toList

/-- The numbers of a time; the second and its fraction are left out if they are zero. -/
def parts (moment : Moment) : List Nat :=
  moment.date.parts ++ [moment.hour, moment.minute] ++
    (if moment.micro = 0 then (if moment.second = 0 then [] else [moment.second])
    else [moment.second, moment.micro])

/-- The form of a time that spells out its parts. -/
def shown (moment : Moment) : Text :=
  "datetime.datetime(".toList ++ Text.joinWith [',', ' '] (moment.parts.map Text.ofNat) ++
    (match moment.offset with
      | some offset => ", tzinfo=".toList ++ shownOffset offset
      | none => []) ++ [')']

/-- The millionths of a second before a time, less its distance from universal time. -/
def instant (moment : Moment) : Int :=
  let minutes : Int := ((moment.date.number * 24 + moment.hour) * 60 + moment.minute : Nat)
  (((minutes - moment.offset.getD 0) * 60 + moment.second) * 1000000) + moment.micro

/-- Whether two times are the same instant; a time without a distance from universal time is never
the same as one with it. -/
def same (left right : Moment) : Bool :=
  left.offset.isSome == right.offset.isSome && left.instant == right.instant

end Moment

end ScriptSite
