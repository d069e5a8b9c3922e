import Terradoc.Calendar.Format
import Terradoc.Calendar.Span
import Terradoc.Function.Encoding

namespace Terradoc.Functions

open Calendar

def readTimestamp (text : String) : Except CallFault Timestamp :=
  match Timestamp.parse? text with
  | some time => .ok time
  | none => .error (.badTimestamp text)

/-- Writes a moment by a pattern. -/
def formatDate (pattern text : String) : Except CallFault Value := do
  let time ← readTimestamp text
  match time.format pattern with
  | .ok written => .ok (.string written)
  | .error cause => .error (.format cause)

def addTime (text span : String) : Except CallFault Value := do
  let time ← readTimestamp text
  match parseSpan? span with
  | some nanoseconds => .ok (.string (time.add nanoseconds).render)
  | none => .error (.badSpan span)

/-- Compares two moments: minus one, zero or one. -/
def compareTimes (left right : String) : Except CallFault Value := do
  let first ← readTimestamp left
  let second ← readTimestamp right
  .ok (.ofInt (match first.order second with
    | .lt => -1
    | .eq => 0
    | .gt => 1))

/-- Functions on moments by name. -/
def timeFunctions : Entries Function := [
  ("timestamp", undetermined "timestamp"),
  ("formatdate", onTexts formatDate),
  ("timeadd", onTexts addTime),
  ("timecmp", onTexts compareTimes)]

end Terradoc.Functions
