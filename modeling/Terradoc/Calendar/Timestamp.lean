import Terradoc.Calendar.Date
import Terradoc.Number.Reading

namespace Terradoc.Calendar

/-- A moment and the offset from universal time at which it was written. A leap second is the
second before it with a billion or more nanoseconds. -/
structure Timestamp where
  /-- Days from the first of January 1970, in universal time. -/
  days : Int
  /-- Second of the day, in universal time. -/
  second : Int
  nanosecond : Int
  /-- Seconds that local time is ahead of universal time. -/
  offset : Int
deriving DecidableEq, Repr

def secondsPerDay : Int := 86400

def nanosPerSecond : Int := 1000000000

/-- Reads a number of exactly so many digits. -/
def readDigits (count : Nat) (text : List Char) : Option (Nat × List Char) :=
  let digits := text.take count
  if digits.length = count && digits.all Char.isDigit then
    some (Number.digitsValue digits, text.drop count)
  else none

def expectSign (sign : Char) : List Char → Option (List Char)
  | char :: rest => if char == sign then some rest else none
  | [] => none

/-- Reads the digits after a point as nanoseconds; those after the ninth do not count. -/
def readNanos (text : List Char) : Option (Nat × List Char) :=
  let digits := text.takeWhile Char.isDigit
  if digits.isEmpty then none
  else
    let kept := digits.take 9
    some (Number.digitsValue (kept ++ List.replicate (9 - kept.length) '0'),
      text.dropWhile Char.isDigit)

/-- Reads an offset in seconds: a letter for none, or a sign with hours and minutes. -/
def readOffset : List Char → Option (Int × List Char)
  | 'Z' :: rest | 'z' :: rest => some (0, rest)
  | sign :: rest => do
    let negative ← if sign == '+' then some false
      else if sign == '-' || sign == '\u2212' then some true else none
    let (hours, rest) ← readDigits 2 rest
    let rest ← expectSign ':' rest
    let (minutes, rest) ← readDigits 2 rest
    if 59 < minutes || 23 < hours then none
    else
      let size : Int := (hours * 60 + minutes) * 60
      some (if negative then -size else size, rest)
  | [] => none

namespace Timestamp

/-- The moment of a local date and time; a second below zero or past the day moves the day. -/
def ofLocal (date : Date) (second nanosecond offset : Int) : Timestamp :=
  let universal := second - offset
  ⟨date.toDays + universal / secondsPerDay, universal % secondsPerDay, nanosecond, offset⟩

/-- Reads a moment. The second may be the sixtieth. -/
def parse? (text : String) : Option Timestamp := do
  let (year, rest) ← readDigits 4 text.toList
  let rest ← expectSign '-' rest
  let (month, rest) ← readDigits 2 rest
  let rest ← expectSign '-' rest
  let (day, rest) ← readDigits 2 rest
  let rest ← match rest with
    | 'T' :: rest | 't' :: rest | ' ' :: rest => some rest
    | _ => none
  let (hour, rest) ← readDigits 2 rest
  let rest ← expectSign ':' rest
  let (minute, rest) ← readDigits 2 rest
  let rest ← expectSign ':' rest
  let (second, rest) ← readDigits 2 rest
  let (nanos, rest) ← match rest with
    | '.' :: rest => readNanos rest
    | rest => some (0, rest)
  let (offset, rest) ← readOffset rest
  let date : Date := ⟨year, month, day⟩
  if !rest.isEmpty || !date.isValid || 23 < hour || 59 < minute || 60 < second then none
  else
    let leap : Nat := if second = 60 then 1 else 0
    some (ofLocal date (hour * 3600 + minute * 60 + (second - leap) : Nat)
      (nanos + leap * nanosPerSecond) offset)

def order (left right : Timestamp) : Ordering :=
  (compare left.days right.days).then
    ((compare left.second right.second).then (compare left.nanosecond right.nanosecond))

def toUniversal (time : Timestamp) : Timestamp := { time with offset := 0 }

/-- Adds a second count and a fraction, with nanoseconds carried over. -/
def shift (time : Timestamp) (seconds nanoseconds : Int) : Timestamp :=
  let total := nanoseconds + time.nanosecond
  let second := time.second + seconds + total / nanosPerSecond
  ⟨time.days + second / secondsPerDay, second % secondsPerDay, total % nanosPerSecond, time.offset⟩

/-- Adds nanoseconds. A moment inside a leap second stays in it as long as the sum does. -/
def add (time : Timestamp) (nanoseconds : Int) : Timestamp :=
  let seconds := nanoseconds.tdiv nanosPerSecond
  let fraction := nanoseconds.tmod nanosPerSecond
  if nanosPerSecond ≤ time.nanosecond then
    let ordinary := { time with nanosecond := time.nanosecond - nanosPerSecond }
    if 0 < seconds || (0 < fraction && 2 * nanosPerSecond ≤ time.nanosecond + fraction) then
      ordinary.shift seconds fraction
    else if seconds < 0 then ordinary.shift (seconds + 1) fraction
    else { time with nanosecond := time.nanosecond + fraction }
  else time.shift seconds fraction

/-- Seconds of local time from the start of the universal day. -/
def localSecond (time : Timestamp) : Int := time.second + time.offset

/-- Days from the first of January 1970 in local time. -/
def localDays (time : Timestamp) : Int := time.days + time.localSecond / secondsPerDay

def localDate (time : Timestamp) : Date := Date.ofDays time.localDays

def secondOfDay (time : Timestamp) : Nat := (time.localSecond % secondsPerDay).toNat

def hour (time : Timestamp) : Nat := time.secondOfDay / 3600

def minute (time : Timestamp) : Nat := time.secondOfDay / 60 % 60

/-- Second of the minute; a leap second counts as the one before it. -/
def secondOfMinute (time : Timestamp) : Nat := time.secondOfDay % 60

end Timestamp

/-- A number with zeros in front up to a width. -/
def zeroFilled (width value : Nat) : String :=
  let digits := Nat.toDigits 10 value
  String.ofList (List.replicate (width - digits.length) '0' ++ digits)

/-- An offset as hours and minutes with a sign. -/
def offsetText (separator : String) (offset : Int) : String :=
  let minutes := offset.natAbs / 60
  (if offset < 0 then "-" else "+") ++ zeroFilled 2 (minutes / 60) ++ separator ++
    zeroFilled 2 (minutes % 60)

/-- A year of four digits, with a sign when four do not hold it. -/
def yearText (year : Int) : String :=
  if 0 ≤ year && year ≤ 9999 then zeroFilled 4 year.toNat
  else (if year < 0 then "-" else "+") ++ zeroFilled 4 year.natAbs

/-- A fraction of a second in groups of three digits, as many as it needs. -/
def fractionText (nanosecond : Nat) : String :=
  if nanosecond = 0 then ""
  else if nanosecond % 1000000 = 0 then "." ++ zeroFilled 3 (nanosecond / 1000000)
  else if nanosecond % 1000 = 0 then "." ++ zeroFilled 6 (nanosecond / 1000)
  else "." ++ zeroFilled 9 nanosecond

/-- RFC 3339 form of a moment in universal time. -/
def Timestamp.render (time : Timestamp) : String :=
  let time := time.toUniversal
  let date := time.localDate
  let leap : Nat := if nanosPerSecond ≤ time.nanosecond then 1 else 0
  yearText date.year ++ "-" ++ zeroFilled 2 date.month ++ "-" ++ zeroFilled 2 date.day ++ "T" ++
    zeroFilled 2 time.hour ++ ":" ++ zeroFilled 2 time.minute ++ ":" ++
    zeroFilled 2 (time.secondOfMinute + leap) ++
    fractionText (time.nanosecond - leap * nanosPerSecond).toNat ++ "Z"

end Terradoc.Calendar
