import DesiredState.Unix.Time.Calendar

/-!
# Reading moments

A moment can be spelled in many ways: as a number of seconds, as a date and a time, by names
of days and months, and as a distance from another one.  The parts of a text are read one
after another.

## Main definitions

* `Moment.read?` — the moment that a text spells.
-/

namespace DesiredState

/-- What is read of a moment. -/
structure MomentParts where
  date? : Option CalendarDate
  /-- The second of the day, and parts of a second in 10⁻⁹. -/
  time? : Option (Nat × Nat)
  zone? : Option Int
  weekday? : Option Nat
  /-- Distances in years, months, days and seconds. -/
  years : Int
  months : Int
  days : Int
  seconds : Int
  /-- Seconds from the start of 1970 on. -/
  absolute? : Option (Int × Nat)

namespace MomentParts

/-- A word of a text. -/
inductive Word where
  | number (hasSign : Bool) (isNegative : Bool) (digits : List Char)
  | name (cs : List Char)
  | sign (c : Char)
  deriving DecidableEq, Repr

/-- The words of a text. -/
def words : (fuel : Nat) → List Char → List Word
  | 0, _ => []
  | fuel + 1, cs =>
      match cs with
      | [] => []
      | c :: rest =>
          if c.isWhitespace then words fuel rest
          else if c.isDigit then
            let digits := cs.takeWhile Char.isDigit
            .number false false digits :: words fuel (cs.drop digits.length)
          else if c.isAlpha then
            let name := cs.takeWhile fun c => c.isAlpha || c == '.'
            .name ((name.filter (· != '.')).map Char.toLower) :: words fuel (cs.drop name.length)
          else if (c = '+' || c = '-') && (rest.head?.any Char.isDigit) then
            let digits := rest.takeWhile Char.isDigit
            .number true (c == '-') digits :: words fuel (rest.drop digits.length)
          else .sign c :: words fuel rest

/-- The value of digits. -/
def value (digits : List Char) : Nat := digitsValue digits

/-- The number of a name among some, of which three letters or more are enough. -/
def nameAmong? (names : List String) (cs : List Char) : Option Nat :=
  names.findIdx? fun name =>
    let name := name.toList.map Char.toLower
    name == cs || (cs.length == 3 && name.take 3 == cs)

/-- The parts with a distance of so many units; nothing if there is no such unit. -/
def shift? (p : MomentParts) (n : Int) (unit : List Char) : Option MomentParts :=
  let unit := if 3 < unit.length && unit.getLast? = some 's' then unit.dropLast else unit
  match String.ofList unit with
  | "year" => some { p with years := p.years + n }
  | "month" => some { p with months := p.months + n }
  | "fortnight" => some { p with days := p.days + 14 * n }
  | "week" => some { p with days := p.days + 7 * n }
  | "day" => some { p with days := p.days + n }
  | "hour" => some { p with seconds := p.seconds + 3600 * n }
  | "minute" | "min" => some { p with seconds := p.seconds + 60 * n }
  | "second" | "sec" => some { p with seconds := p.seconds + n }
  | _ => none

/-- The parts with all distances turned around. -/
def turned (p : MomentParts) : MomentParts :=
  { p with years := -p.years, months := -p.months, days := -p.days, seconds := -p.seconds }

/-- The year of two or more digits. -/
def yearOf (digits : List Char) : Int :=
  let n := value digits
  if digits.length ≤ 2 then (if n < 69 then 2000 + n else 1900 + n) else n

/-- The parts with a date. -/
def withDate? (p : MomentParts) (year : Int) (month day : Nat) : Option MomentParts :=
  if p.date?.isSome || month = 0 || 12 < month || day = 0 || daysInMonth year month < day then none
  else some { p with date? := some ⟨year, month, day⟩ }

/-- The parts with a time. -/
def withTime? (p : MomentParts) (hour minute second nanos : Nat) : Option MomentParts :=
  if p.time?.isSome || 23 < hour || 59 < minute || 60 < second then none
  else some { p with time? := some (hour * 3600 + minute * 60 + second, nanos) }

/-- Parts of a second in 10⁻⁹. -/
def nanosOf (digits : List Char) : Nat :=
  value ((digits ++ List.replicate 9 '0').take 9)

/-- The hour of half a day. -/
def halfHour? (hour : Nat) (name : List Char) : Option Nat :=
  if hour = 0 || 12 < hour then none
  else if name = ['a', 'm'] then some (hour % 12)
  else if name = ['p', 'm'] then some (hour % 12 + 12)
  else none

/-- The distance of a zone that digits spell. -/
def zoneOf? (isNegative : Bool) (digits minutes : List Char) : Option Int :=
  let n : Nat :=
    if !minutes.isEmpty then value digits * 3600 + value minutes * 60
    else if digits.length ≤ 2 then value digits * 3600
    else value digits / 100 * 3600 + value digits % 100 * 60
  if 24 * 3600 < n then none else some (if isNegative then -(n : Int) else n)

/-- Whether a name is that of the universal zone. -/
def isUniversal (name : List Char) : Bool :=
  ["utc", "gmt", "z", "ut"].contains (String.ofList name)

/-- The number of a word for one. -/
def ordinal? (name : List Char) : Option Int :=
  match String.ofList name with
  | "last" => some (-1)
  | "this" => some 0
  | "next" => some 1
  | _ => none

/-- The parts behind words, of which there are none that mean nothing. -/
def read? : (fuel : Nat) → MomentParts → List Word → Option MomentParts
  | 0, _, _ => none
  | fuel + 1, p, ws =>
      match ws with
      | [] => some p
      | .sign '@' :: .number hasSign isNegative n :: .sign '.' :: .number false _ fraction ::
          rest =>
          if hasSign && !isNegative then none
          else
            let whole : Int := if isNegative then -(value n : Int) else value n
            read? fuel { p with absolute? := some (whole, nanosOf fraction) } rest
      | .sign '@' :: .number _ isNegative n :: rest =>
          let seconds : Int := if isNegative then -(value n : Int) else value n
          read? fuel { p with absolute? := some (seconds, 0) } rest
      | .number false _ y :: .number true true m :: .number true true d :: rest => do
          let p ← p.withDate? (yearOf y) (value m) (value d)
          match rest with
          | .name ['t'] :: rest => read? fuel p rest
          | rest => read? fuel p rest
      | .number false _ a :: .sign '/' :: .number false _ b :: .sign '/' :: .number false _ c ::
          rest =>
          if a.length = 4 then do read? fuel (← p.withDate? (yearOf a) (value b) (value c)) rest
          else do read? fuel (← p.withDate? (yearOf c) (value a) (value b)) rest
      | .number false _ h :: .sign ':' :: .number false _ m :: rest => do
          let (second, nanos, rest) : Nat × Nat × List Word := match rest with
            | .sign ':' :: .number false _ s :: .sign '.' :: .number false _ f :: rest =>
                (value s, nanosOf f, rest)
            | .sign ':' :: .number false _ s :: rest => (value s, 0, rest)
            | rest => (0, 0, rest)
          let (hour, rest) ← match rest with
            | .name name :: rest =>
                if name = ['a', 'm'] || name = ['p', 'm'] then
                  (halfHour? (value h) name).map (·, rest)
                else some (value h, .name name :: rest)
            | rest => some (value h, rest)
          let p ← p.withTime? hour (value m) second nanos
          match rest with
          | .number true isNegative z :: .sign ':' :: .number false _ minutes :: rest =>
              read? fuel { p with zone? := some (← zoneOf? isNegative z minutes) } rest
          | .number true isNegative z :: .name name :: rest =>
              match p.shift? (if isNegative then -(value z : Int) else value z) name with
              | some p => read? fuel p rest
              | none => do
                  let zone ← zoneOf? isNegative z []
                  read? fuel { p with zone? := some zone } (.name name :: rest)
          | .number true isNegative z :: rest =>
              read? fuel { p with zone? := some (← zoneOf? isNegative z []) } rest
          | rest => read? fuel p rest
      | .number false _ d :: .name name :: rest =>
          match nameAmong? monthNames name with
          | some month =>
              match rest with
              | .number false _ _ :: .sign ':' :: _ => none
              | .number false _ y :: rest => do
                  read? fuel (← p.withDate? (yearOf y) (month + 1) (value d)) rest
              | .number true true y :: rest => do
                  read? fuel (← p.withDate? (yearOf y) (month + 1) (value d)) rest
              | _ => none
          | none =>
              match halfHour? (value d) name with
              | some hour => do read? fuel (← p.withTime? hour 0 0 0) rest
              | none => do
                  let p ← p.shift? (value d) name
                  match rest with
                  | .name ['a', 'g', 'o'] :: rest => read? fuel p.turned rest
                  | rest => read? fuel p rest
      | .number true isNegative n :: .name name :: rest => do
          read? fuel (← p.shift? (if isNegative then -(value n : Int) else value n) name) rest
      | .number false _ n :: rest =>
          if n.length = 8 then do
            read? fuel (← p.withDate? (value (n.take 4)) (value ((n.drop 4).take 2))
              (value (n.drop 6))) rest
          else if n.length = 4 then do
            read? fuel (← p.withTime? (value (n.take 2)) (value (n.drop 2)) 0 0) rest
          else if n.length ≤ 2 then do read? fuel (← p.withTime? (value n) 0 0 0) rest
          else none
      | .sign ',' :: rest => read? fuel p rest
      | .name name :: rest =>
          if isUniversal name then
            read? fuel { p with zone? := some 0 } rest
          else
            match nameAmong? monthNames name, rest with
            | some month, .number false _ d :: .sign ',' :: .number false _ y :: rest => do
                read? fuel (← p.withDate? (yearOf y) (month + 1) (value d)) rest
            | some month, .number false _ d :: .number false _ y :: rest =>
                match rest with
                | .sign ':' :: _ => none
                | rest => do read? fuel (← p.withDate? (yearOf y) (month + 1) (value d)) rest
            | some _, _ => none
            | none, rest =>
                match nameAmong? weekdayNames name with
                | some day => read? fuel { p with weekday? := some day } rest
                | none =>
                    match ordinal? name, rest with
                    | some n, .name unit :: rest =>
                        match nameAmong? weekdayNames unit with
                        | some day =>
                            read? fuel { p with weekday? := some day, days := p.days +
                              7 * (if n ≤ 0 then n else n - 1) } rest
                        | none => do read? fuel (← p.shift? n unit) rest
                    | _, _ =>
                        match String.ofList name with
                        | "now" | "today" => read? fuel p rest
                        | "yesterday" => read? fuel { p with days := p.days - 1 } rest
                        | "tomorrow" => read? fuel { p with days := p.days + 1 } rest
                        | "noon" => do read? fuel (← p.withTime? 12 0 0 0) rest
                        | "midnight" => do read? fuel (← p.withTime? 0 0 0 0) rest
                        | _ => do
                            let p ← p.shift? 1 name
                            match rest with
                            | .name ['a', 'g', 'o'] :: rest => read? fuel p.turned rest
                            | rest => read? fuel p rest
      | _ => none

end MomentParts

namespace Moment

/-- The moment that parts stand for, seen from now. -/
def ofParts (now : Moment) (p : MomentParts) : Moment :=
  match p.absolute? with
  | some (seconds, nanos) => ⟨seconds, nanos, now.zone⟩
  | none =>
      let isBare := p.date?.isNone && p.time?.isNone && p.weekday?.isNone
      let date := p.date?.getD now.date
      let (second, nanos) := p.time?.getD
        (if isBare then (now.secondOfDay, now.nanoseconds) else (0, 0))
      let months := date.year * 12 + (date.month : Int) - 1 + p.years * 12 + p.months
      let first := daysOfDate ⟨months.fdiv 12, (months.fmod 12).toNat + 1, 1⟩
      let days := first + (date.day - 1 : Nat) + p.days
      let days := match p.weekday? with
        | some day =>
            if p.date?.isSome then days
            else days + ((day : Int) - (days + 4)).fmod 7
        | none => days
      ⟨days * 86400 + second - p.zone?.getD now.zone + p.seconds, nanos, now.zone⟩

/-- The moment that a text spells, seen from now. -/
def read? (now : Moment) (cs : List Char) : Option Moment :=
  let words := MomentParts.words (cs.length + 1) cs
  if words.isEmpty then
    some (ofParts now ⟨some now.date, some (0, 0), none, none, 0, 0, 0, 0, none⟩)
  else
    (MomentParts.read? (words.length + 1) ⟨none, none, none, none, 0, 0, 0, 0, none⟩ words).bind
      fun p =>
        let isAlone := match words with
          | .sign '@' :: _ => p.date?.isNone && p.time?.isNone && p.seconds == 0 && p.days == 0
          | _ => true
        if isAlone then some (ofParts now p) else none

end Moment

end DesiredState
