import DesiredState.Number.Layout
import DesiredState.Number.Reading

/-!
# The calendar

A moment is a number of seconds from the start of 1970 on, in a zone at a distance from the
universal one.  The calendar has it as a year, a month, a day and a time.

## Main definitions

* `daysOfDate`, `CalendarDate` — days as numbers, and as dates.
* `Moment`, `Moment.write` — moments, and their texts by a format.
-/

namespace DesiredState

/-! ## Dates -/

/-- A date. -/
structure CalendarDate where
  year : Int
  month : Nat
  day : Nat
  deriving DecidableEq, Repr

/-- How many days there are from the start of 1970 to a date. -/
def daysOfDate (d : CalendarDate) : Int :=
  let year := if d.month ≤ 2 then d.year - 1 else d.year
  let era := year.fdiv 400
  let yearOfEra := year - era * 400
  let shifted : Int := if 2 < d.month then (d.month : Int) - 3 else (d.month : Int) + 9
  let dayOfYear := (153 * shifted + 2) / 5 + d.day - 1
  era * 146097 + yearOfEra * 365 + yearOfEra / 4 - yearOfEra / 100 + dayOfYear - 719468

/-- The date so many days from the start of 1970 on. -/
def CalendarDate.ofDays (days : Int) : CalendarDate :=
  let z := days + 719468
  let era := z.fdiv 146097
  let dayOfEra := z - era * 146097
  let yearOfEra := (dayOfEra - dayOfEra / 1460 + dayOfEra / 36524 - dayOfEra / 146096) / 365
  let dayOfYear := dayOfEra - (365 * yearOfEra + yearOfEra / 4 - yearOfEra / 100)
  let shifted := (5 * dayOfYear + 2) / 153
  let day := dayOfYear - (153 * shifted + 2) / 5 + 1
  let month := if shifted < 10 then shifted + 3 else shifted - 9
  ⟨yearOfEra + era * 400 + (if month ≤ 2 then 1 else 0), month.toNat, day.toNat⟩

/-- Whether a year has one day more. -/
def isLeapYear (year : Int) : Bool := year % 4 == 0 && (year % 100 != 0 || year % 400 == 0)

/-- How many days a month has. -/
def daysInMonth (year : Int) (month : Nat) : Nat :=
  if month = 2 then (if isLeapYear year then 29 else 28)
  else if month = 4 || month = 6 || month = 9 || month = 11 then 30
  else 31

/-- The names of the days of the week. -/
def weekdayNames : List String :=
  ["Sunday", "Monday", "Tuesday", "Wednesday", "Thursday", "Friday", "Saturday"]

/-- The names of the months. -/
def monthNames : List String :=
  ["January", "February", "March", "April", "May", "June", "July", "August", "September",
    "October", "November", "December"]

/-! ## Moments -/

/-- A moment: seconds from the start of 1970 on, parts of a second in 10⁻⁹, and the distance of
the zone in seconds. -/
structure Moment where
  seconds : Int
  nanoseconds : Nat
  zone : Int
  deriving DecidableEq, Repr

namespace Moment

/-- The seconds of the zone. -/
def localSeconds (m : Moment) : Int := m.seconds + m.zone

/-- The date. -/
def date (m : Moment) : CalendarDate := .ofDays (m.localSeconds.fdiv 86400)

/-- The second of the day. -/
def secondOfDay (m : Moment) : Nat := (m.localSeconds.fmod 86400).toNat

/-- The day of the week, Sunday being zero. -/
def weekday (m : Moment) : Nat := ((m.localSeconds.fdiv 86400 + 4).fmod 7).toNat

/-- The day of the year, from zero on. -/
def dayOfYear (m : Moment) : Nat :=
  (daysOfDate m.date - daysOfDate ⟨m.date.year, 1, 1⟩).toNat

/-- The year and the week by which weeks are counted: one that belongs to the year of its
Thursday. -/
def isoWeek (m : Moment) : Int × Nat :=
  let days := m.localSeconds.fdiv 86400
  let thursday := days + 3 - (((m.weekday + 6) % 7 : Nat) : Int)
  let year := (CalendarDate.ofDays thursday).year
  (year, ((thursday - daysOfDate ⟨year, 1, 1⟩) / 7).toNat + 1)

/-! ### Texts -/

/-- How a field is filled up. -/
inductive Fill where
  | zeros
  | blanks
  | nothing
  deriving DecidableEq, Repr

/-- A field of a width. -/
def field (fill : Fill) (width : Nat) (cs : List Char) : List Char :=
  match fill with
  | .nothing => cs
  | .zeros =>
      match cs with
      | '-' :: digits => '-' :: List.replicate (width - 1 - digits.length) '0' ++ digits
      | cs => List.replicate (width - cs.length) '0' ++ cs
  | .blanks => List.replicate (width - cs.length) ' ' ++ cs

/-- The distance of the zone, with colons between its parts or not. -/
def zoneText (m : Moment) (colons : Nat) : List Char :=
  let n := m.zone.natAbs
  let two (k : Nat) : List Char := field .zeros 2 (writeNat k)
  let hours := two (n / 3600)
  let minutes := two (n / 60 % 60)
  let seconds := two (n % 60)
  let text := match colons with
    | 0 => hours ++ minutes
    | 1 => hours ++ ':' :: minutes
    | 2 => hours ++ ':' :: minutes ++ ':' :: seconds
    | _ => if n % 3600 = 0 then hours else hours ++ ':' :: minutes
  (if m.zone < 0 then '-' else '+') :: text

/-- How a directive of a format is written. -/
structure FieldForm where
  fill? : Option Fill
  width? : Option Nat
  isUpper : Bool
  swapsCase : Bool
  colons : Nat

/-- The flags of a directive, and what follows. -/
def readFlags : List Char → FieldForm → FieldForm × List Char
  | c :: rest, f =>
      match c with
      | '_' => readFlags rest { f with fill? := some .blanks }
      | '-' => readFlags rest { f with fill? := some .nothing }
      | '0' => readFlags rest { f with fill? := some .zeros }
      | '^' => readFlags rest { f with isUpper := true }
      | '#' => readFlags rest { f with swapsCase := true }
      | '+' => readFlags rest f
      | _ => (f, c :: rest)
  | [], f => (f, [])

/-- A moment in a format, of which so many letters are read. -/
def write (m : Moment) : (fuel : Nat) → List Char → List Char
  | 0, _ => []
  | fuel + 1, cs =>
      match cs with
      | [] => []
      | '%' :: rest =>
          let (form, behind) := readFlags rest ⟨none, none, false, false, 0⟩
          let digits := behind.takeWhile Char.isDigit
          let behind := behind.drop digits.length
          let form :=
            if digits.isEmpty then form else { form with width? := some (digitsValue digits) }
          let colons := (behind.takeWhile (· == ':')).length
          let behind := behind.drop colons
          let behind := if behind.head? = some 'E' || behind.head? = some 'O' then
              (if behind.length = 1 then behind else behind.drop 1) else behind
          match behind with
          | [] => '%' :: rest
          | kind :: behind =>
              let d := m.date
              let second := m.secondOfDay
              let hour := second / 3600
              let hour12 := if hour % 12 = 0 then 12 else hour % 12
              let number (fill : Fill) (width : Nat) (i : Int) : List Char :=
                field (form.fill?.getD fill) (form.width?.getD width) (writeInt i)
              let zeros := number .zeros
              let blanks := number .blanks
              let text (cs : List Char) : List Char :=
                let cs := if form.isUpper || form.swapsCase then cs.map Char.toUpper else cs
                field (if form.fill? = some .zeros then .zeros else .blanks)
                  (form.width?.getD 0) cs
              let composed (format : String) : List Char :=
                text (write m fuel format.toList)
              let written? : Option (List Char) := match kind with
                | '%' => some ['%']
                | 'n' => some ['\n']
                | 't' => some ['\t']
                | 'a' => some (text ((weekdayNames.getD m.weekday "").toList.take 3))
                | 'A' => some (text (weekdayNames.getD m.weekday "").toList)
                | 'b' | 'h' => some (text ((monthNames.getD (d.month - 1) "").toList.take 3))
                | 'B' => some (text (monthNames.getD (d.month - 1) "").toList)
                | 'c' => some (composed "%a %b %e %H:%M:%S %Y")
                | 'C' => some (zeros 2 (d.year.fdiv 100))
                | 'd' => some (zeros 2 d.day)
                | 'D' | 'x' => some (composed "%m/%d/%y")
                | 'e' => some (blanks 2 d.day)
                | 'F' => some (composed "%Y-%m-%d")
                | 'g' => some (zeros 2 (m.isoWeek.1.fmod 100))
                | 'G' => some (zeros 4 m.isoWeek.1)
                | 'H' => some (zeros 2 hour)
                | 'I' => some (zeros 2 hour12)
                | 'j' => some (zeros 3 (m.dayOfYear + 1))
                | 'k' => some (blanks 2 hour)
                | 'l' => some (blanks 2 hour12)
                | 'm' => some (zeros 2 d.month)
                | 'M' => some (zeros 2 (second / 60 % 60 : Nat))
                | 'N' =>
                    let all := field .zeros 9 (writeNat m.nanoseconds)
                    some (all.take (form.width?.getD 9))
                | 'p' => some (if form.swapsCase then (if hour < 12 then "am" else "pm").toList
                    else text (if hour < 12 then "AM" else "PM").toList)
                | 'P' => some (text (if hour < 12 then "am" else "pm").toList)
                | 'q' => some (zeros 1 ((d.month + 2) / 3 : Nat))
                | 'r' => some (composed "%I:%M:%S %p")
                | 'R' => some (composed "%H:%M")
                | 's' => some (zeros 1 m.seconds)
                | 'S' => some (zeros 2 (second % 60 : Nat))
                | 'T' | 'X' => some (composed "%H:%M:%S")
                | 'u' => some (zeros 1 (if m.weekday = 0 then 7 else m.weekday))
                | 'U' => some (zeros 2 ((m.dayOfYear + 7 - m.weekday) / 7 : Nat))
                | 'V' => some (zeros 2 m.isoWeek.2)
                | 'w' => some (zeros 1 m.weekday)
                | 'W' => some (zeros 2 ((m.dayOfYear + 7 - (m.weekday + 6) % 7) / 7 : Nat))
                | 'y' => some (zeros 2 (d.year.fmod 100))
                | 'Y' => some (zeros 1 d.year)
                | 'z' => some (m.zoneText colons)
                | 'Z' => some (if form.swapsCase then "utc".toList else text "UTC".toList)
                | _ => none
              match written? with
              | some text => text ++ write m fuel behind
              | none => '%' :: rest.take (rest.length - behind.length) ++ write m fuel behind
      | c :: rest => c :: write m fuel rest

/-- A moment in a format. -/
def format (m : Moment) (format : String) : List Char :=
  m.write (format.length + 64) format.toList

end Moment

end DesiredState
