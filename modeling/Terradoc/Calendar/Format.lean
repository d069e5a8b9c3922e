import Terradoc.Calendar.Timestamp

namespace Terradoc.Calendar

/-- Why a pattern cannot be followed. -/
inductive FormatFault where
  | unterminatedLiteral
  | verb (run : String)
deriving DecidableEq, Repr

def hourOfDial (hour : Nat) : Nat := if hour % 12 = 0 then 12 else hour % 12

/-- What a letter repeated so often stands for. -/
def verbText? (time : Timestamp) (letter : Char) (count : Nat) : Option String :=
  let date := time.localDate
  let monthName := monthNames.getD (date.month - 1) ""
  let dayName := weekdayNames.getD (weekday time.localDays) ""
  let dial := hourOfDial time.hour
  match letter, count with
  | 'Y', 4 => some (yearText date.year)
  | 'Y', 2 => some (zeroFilled 2 (date.year % 100).toNat)
  | 'M', 4 => some monthName
  | 'M', 3 => some (String.ofList (monthName.toList.take 3))
  | 'M', 2 => some (zeroFilled 2 date.month)
  | 'M', 1 => some (toString date.month)
  | 'D', 2 => some (zeroFilled 2 date.day)
  | 'D', 1 => some (toString date.day)
  | 'E', 4 => some dayName
  | 'E', 3 => some (String.ofList (dayName.toList.take 3))
  | 'h', 2 => some (zeroFilled 2 time.hour)
  | 'h', 1 => some (toString time.hour)
  | 'H', 2 => some (zeroFilled 2 dial)
  | 'H', 1 => some (toString dial)
  | 'A', 2 => some (if time.hour < 12 then "AM" else "PM")
  | 'a', 2 => some (if time.hour < 12 then "am" else "pm")
  | 'm', 2 => some (zeroFilled 2 time.minute)
  | 'm', 1 => some (toString time.minute)
  | 's', 2 => some (zeroFilled 2 time.secondOfMinute)
  | 's', 1 => some (toString time.secondOfMinute)
  | 'Z', 1 => some (if time.offset = 0 then "Z" else offsetText ":" time.offset)
  | 'Z', 5 => some (offsetText ":" time.offset)
  | 'Z', 4 => some (offsetText "" time.offset)
  | 'Z', 3 => some (if time.offset = 0 then "UTC" else offsetText ":" time.offset)
  | _, _ => none

/-- Follows a pattern; the budget bounds the number of its parts. -/
def formatWithin (time : Timestamp) : Nat → List Char → Except FormatFault (List Char)
  | 0, _ | _, [] => .ok []
  | budget + 1, first :: rest =>
    if first == '\'' then
      let literal := rest.takeWhile (· != '\'')
      match rest.dropWhile (· != '\'') with
      | [] => .error .unterminatedLiteral
      | _ :: rest =>
        let written := if literal.isEmpty then ['\''] else literal
        (formatWithin time budget rest).map (written ++ ·)
    else if !first.isAlpha then (formatWithin time budget rest).map (first :: ·)
    else
      let run := first :: rest.takeWhile (· == first)
      match verbText? time first run.length with
      | none => .error (.verb (String.ofList run))
      | some text =>
        (formatWithin time budget (rest.dropWhile (· == first))).map (text.toList ++ ·)

def Timestamp.format (time : Timestamp) (pattern : String) : Except FormatFault String :=
  (formatWithin time pattern.length pattern.toList).map String.ofList

end Terradoc.Calendar
