import RestBindings.Json
import RestBindings.Text.Split
import RestBindings.Yaml.Cursor

/-!
# Dates and times in YAML

A date has a year, a month and a day; a time of day with an offset from universal time may follow.
A date that exists in no calendar is refused, and so is an offset of a day or more.
-/

namespace RestBindings.Yaml.Timestamp

/-- An offset from universal time. -/
structure Offset where
  west : Bool
  hour : Nat
  minute : Nat
  deriving DecidableEq, Repr

/-- A time of day. -/
structure Clock where
  hour : Nat
  minute : Nat
  second : Nat
  /-- The digits behind the decimal point. -/
  fraction : List Char
  /-- Nothing for a time without a zone. -/
  zone : Option Offset
  deriving DecidableEq, Repr

/-- A date as it is written. -/
structure Written where
  year : Nat
  month : Nat
  day : Nat
  /-- Month and day have two digits each. -/
  padded : Bool
  clock : Option Clock
  deriving DecidableEq, Repr

/-! ## Notation -/

/-- A number of at most the given digits, at least the given ones, and the rest. -/
def number (least most : Nat) (s : List Char) : Option (Nat × List Char) :=
  let digits := (s.take most).takeWhile Char.isDigit
  if digits.length < least then none
  else some (Json.digitsValue digits, s.drop digits.length)

/-- A number behind a mark, and the rest. -/
def numberAfter (mark : Char) (least most : Nat) : List Char → Option (Nat × List Char)
  | c :: rest => if c = mark then number least most rest else none
  | [] => none

/-- A blank between the parts of a date. -/
def isGap (c : Char) : Bool :=
  c == ' ' || c == '\t'

/-- An offset with a sign, at the end of a text. -/
def offset? (west : Bool) (s : List Char) : Option Offset := do
  let (hour, rest) ← number 1 2 s
  match rest with
  | [] => some ⟨west, hour, 0⟩
  | _ =>
    let (minute, rest) ← numberAfter ':' 2 2 rest
    if rest.isEmpty then some ⟨west, hour, minute⟩ else none

/-- The zone at the end of a text, if it gives one. -/
def zone? (s : List Char) : Option (Option Offset) :=
  match s, s.dropWhile isGap with
  | [], _ => some none
  | _, ['Z'] => some (some ⟨false, 0, 0⟩)
  | _, '+' :: rest => (offset? false rest).map some
  | _, '-' :: rest => (offset? true rest).map some
  | _, _ => none

/-- The time of day that a text gives. -/
def clock? (s : List Char) : Option Clock := do
  let (hour, rest) ← number 1 2 s
  let (minute, rest) ← numberAfter ':' 2 2 rest
  let (second, rest) ← numberAfter ':' 2 2 rest
  let (fraction, rest) := match rest with
    | '.' :: rest => (rest.takeWhile Char.isDigit, rest.dropWhile Char.isDigit)
    | rest => ([], rest)
  some ⟨hour, minute, second, fraction, ← zone? rest⟩

/-- What follows the day: nothing, or a mark or blanks and a time of day. -/
def afterDay? (s : List Char) : Option (Option Clock) :=
  match s with
  | [] => some none
  | 'T' :: rest | 't' :: rest => (clock? rest).map some
  | c :: _ => if isGap c then (clock? (s.dropWhile isGap)).map some else none

/-- The date that a text gives. -/
def written? (s : List Char) : Option Written := do
  let (year, rest) ← number 4 4 s
  let (month, afterMonth) ← numberAfter '-' 1 2 rest
  let (day, afterDay) ← numberAfter '-' 1 2 afterMonth
  let padded := rest.length - afterMonth.length = 3 ∧ afterMonth.length - afterDay.length = 3
  some ⟨year, month, day, padded, ← afterDay? afterDay⟩

/-- A plain scalar that stands for a date: without a time of day, all digits are written. -/
def isImplicit (s : List Char) : Bool :=
  match written? s with
  | some w => w.clock.isSome || w.padded
  | none => false

/-! ## Values -/

/-- The year has a day more than others. -/
def isLeap (year : Nat) : Bool :=
  year % 4 == 0 && (year % 100 != 0 || year % 400 == 0)

/-- The days of a month. -/
def daysOf (year month : Nat) : Nat :=
  if month = 2 then (if isLeap year then 29 else 28)
  else if month = 4 ∨ month = 6 ∨ month = 9 ∨ month = 11 then 30
  else 31

/-- Refuses a day that does not exist. -/
def checkDay (w : Written) : Except Error Unit :=
  if w.year = 0 then .error (.outOfRange "year 0 is out of range")
  else if w.month = 0 ∨ w.month > 12 then .error (.outOfRange "month must be in 1..12")
  else if w.day = 0 ∨ w.day > daysOf w.year w.month then
    .error (.outOfRange "day is out of range for month")
  else .ok ()

/-- Refuses a time that does not exist. -/
def checkClock (c : Clock) : Except Error Unit :=
  if c.hour > 23 then .error (.outOfRange "hour must be in 0..23")
  else if c.minute > 59 then .error (.outOfRange "minute must be in 0..59")
  else if c.second > 59 then .error (.outOfRange "second must be in 0..59")
  else .ok ()

/-- The seconds of an offset to the east. -/
def Offset.seconds (o : Offset) : Int :=
  let n : Int := o.hour * 3600 + o.minute * 60
  if o.west then -n else n

/-- The text of a span of time. -/
def spanText (seconds : Int) : String :=
  let day := 86400
  let days := Int.fdiv seconds day
  let rest := Int.fmod seconds day
  let parts := (if days = 0 then [] else ["days=" ++ toString days]) ++
    (if rest = 0 then [] else ["seconds=" ++ toString rest])
  "datetime.timedelta(" ++ (if parts.isEmpty then "0" else Text.join ", " parts) ++ ")"

/-- Refuses an offset of a day or more. -/
def checkOffset (o : Offset) : Except Error Unit :=
  if o.seconds.natAbs < 86400 then .ok ()
  else .error (.outOfRange
    ("offset must be a timedelta strictly between -timedelta(hours=24) and timedelta(hours=24), "
      ++ "not " ++ spanText o.seconds ++ "."))

/-- The text of a zone. -/
def zoneText (o : Offset) : String :=
  if o.seconds = 0 then "datetime.timezone.utc"
  else "datetime.timezone(" ++ spanText o.seconds ++ ")"

/-- The millionths of a second that digits behind the decimal point give. -/
def microseconds (fraction : List Char) : Nat :=
  let digits := fraction.take 6
  Json.digitsValue (digits ++ List.replicate (6 - digits.length) '0')

/-- The numbers of a time of day, those that are zero at its end left out. -/
def clockNumbers (c : Clock) : List Nat :=
  let micro := microseconds c.fraction
  [c.hour, c.minute] ++
    (if micro != 0 then [c.second, micro] else if c.second != 0 then [c.second] else [])

/-- The moment that a written date stands for. -/
def moment (w : Written) : Except Error Moment := do
  let numbers := [w.year, w.month, w.day]
  match w.clock with
  | none =>
    checkDay w
    return ⟨.date, "datetime.date(" ++ Text.join ", " (numbers.map toString) ++ ")"⟩
  | some c =>
    match c.zone with
    | some o => checkOffset o
    | none => pure ()
    checkDay w
    checkClock c
    let zone := match c.zone with
      | some o => ["tzinfo=" ++ zoneText o]
      | none => []
    let parts := (numbers ++ clockNumbers c).map toString ++ zone
    return ⟨.dateTime, "datetime.datetime(" ++ Text.join ", " parts ++ ")"⟩

end RestBindings.Yaml.Timestamp
