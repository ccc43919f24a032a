import Mathlib.Data.List.Basic
import Mathlib.Algebra.Ring.Nat

/-!
`datetime.fromisoformat`: the ISO 8601 forms it reads. A date is `YYYY-MM-DD`, `YYYYMMDD`,
`YYYY-Www[-D]` or `YYYYWww[D]`; any one character parts it from the time; a fraction is allowed
after the seconds only; the offset is `Z` or a signed time.
-/

/-- A parsed date and time: microseconds since 1970 on its own clock, and that clock's offset
from UTC, none when the text names no zone. -/
structure IsoTime where
  clock : Int
  offset : Option Int
  deriving DecidableEq

namespace IsoTime

def isDigit (c : Char) : Bool := '0' ≤ c ∧ c ≤ '9'

/-- The value of the next `n` digits, `value` standing in front of them, and what follows. -/
def digits (n : Nat) (cs : List Char) (value : Nat := 0) : Option (Nat × List Char) :=
  match n, cs with
  | 0, cs => some (value, cs)
  | n + 1, c :: cs => if isDigit c then digits n cs (10 * value + (c.toNat - 48)) else none
  | _ + 1, [] => none

/-- The next character is `c`: drop it. -/
def expect (c : Char) (cs : List Char) : Option (List Char) :=
  match cs with
  | d :: rest => if d = c then some rest else none
  | [] => none

/-! ### The date -/

def isLeap (year : Nat) : Bool := year % 4 = 0 ∧ (year % 100 ≠ 0 ∨ year % 400 = 0)

def daysInMonth (year month : Nat) : Nat :=
  if month = 2 then (if isLeap year then 29 else 28)
  else if month ∈ [4, 6, 9, 11] then 30 else 31

/-- The day's number, 1 on 1 January of year 1. -/
def ordinal (year month day : Nat) : Nat :=
  let years := year - 1
  years * 365 + years / 4 - years / 100 + years / 400 +
    ((List.range (month - 1)).map fun m => daysInMonth year (m + 1)).sum + day

/-- `_isoweek_to_gregorian` -/
def ofIsoWeek (year week day : Nat) : Option Nat :=
  let first := ordinal year 1 1
  let weekday := (first + 6) % 7
  let long := weekday = 3 ∨ (weekday = 2 ∧ isLeap year)
  if year = 0 ∨ week = 0 ∨ 53 < week ∨ (week = 53 ∧ ¬ long) ∨ day = 0 ∨ 7 < day then none else
  let monday := first - weekday + (if 3 < weekday then 7 else 0)
  let found := monday + (week - 1) * 7 + (day - 1)
  if ordinal 9999 12 31 < found then none else some found

def ofCalendar (year month day : Nat) : Option Nat :=
  if year = 0 ∨ month = 0 ∨ 12 < month ∨ day = 0 ∨ daysInMonth year month < day then none
  else some (ordinal year month day)

/-- `_parse_isoformat_date`: the day's number. -/
def date? (cs : List Char) : Option Nat := do
  let (year, cs) ← digits 4 cs
  let dashed := cs.head? = some '-'
  let cs := if dashed then cs.drop 1 else cs
  if cs.head? = some 'W' then
    let (week, cs) ← digits 2 (cs.drop 1)
    if cs.isEmpty then ofIsoWeek year week 1 else
    let cs ← if dashed then expect '-' cs else some cs
    let (day, cs) ← digits 1 cs
    if cs.isEmpty then ofIsoWeek year week day else none
  else
    let (month, cs) ← digits 2 cs
    let cs ← if dashed then expect '-' cs else some cs
    let (day, cs) ← digits 2 cs
    if cs.isEmpty then ofCalendar year month day else none

/-- `_find_isoformat_datetime_separator` -/
def separatorAt (cs : List Char) : Nat :=
  if cs.length = 7 then 7
  else if cs[4]? = some '-' then
    if cs[5]? = some 'W' then
      if cs[8]? = some '-' ∧ ¬ (cs[10]?).any isDigit then 10 else 8
    else 10
  else if cs[4]? = some 'W' then
    let last := 7 + ((cs.drop 7).takeWhile isDigit).length
    if last < 9 then last else if last % 2 = 0 then 7 else 8
  else 8

/-! ### The time -/

/-- The digits after the decimal mark, as microseconds; those past the sixth are dropped. -/
def fraction? (cs : List Char) : Option Nat := do
  if cs.isEmpty ∨ ¬ cs.all isDigit then none else
  let places := min cs.length 6
  let (value, _) ← digits places cs
  some (value * 10 ^ (6 - places))

/-- The part of a time after its seconds. -/
def secondsTail? (cs : List Char) : Option Nat :=
  match cs with
  | [] => some 0
  | c :: rest => if c = '.' ∨ c = ',' then fraction? rest else none

/-- `_parse_hh_mm_ss_ff`: hours, minutes, seconds and microseconds. -/
def hms? (cs : List Char) : Option (Nat × Nat × Nat × Nat) := do
  let (hour, cs) ← digits 2 cs
  if cs.isEmpty then some (hour, 0, 0, 0) else
  let colon := cs.head? = some ':'
  let cs := if colon then cs.drop 1 else cs
  let (minute, cs) ← digits 2 cs
  if cs.isEmpty then some (hour, minute, 0, 0) else
  let cs ← if colon then expect ':' cs else some cs
  let (second, cs) ← digits 2 cs
  let micros ← secondsTail? cs
  some (hour, minute, second, micros)

def micros (t : Nat × Nat × Nat × Nat) : Int :=
  ((t.1 * 3600 + t.2.1 * 60 + t.2.2.1) * 1000000 + t.2.2.2 : Nat)

/-- What stands after a time: nothing, `Z`, or a signed offset of less than a day. -/
def zone? (cs : List Char) : Option (Option Int) :=
  match cs with
  | [] => some none
  | sign :: rest =>
    if sign = 'Z' then (if rest.isEmpty then some (some 0) else none) else do
    let offset := micros (← hms? rest)
    if 86400000000 ≤ offset then none else
    some (some (if sign = '-' then -offset else offset))

/-- `_parse_isoformat_time` -/
def time? (cs : List Char) : Option (Int × Option Int) := do
  let inZone := fun c => c = '+' ∨ c = '-' ∨ c = 'Z'
  let (hour, minute, second, fraction) ← hms? (cs.takeWhile fun c => ¬ inZone c)
  let zone ← zone? (cs.dropWhile fun c => ¬ inZone c)
  if 23 < hour ∨ 59 < minute ∨ 59 < second then none else
  some (micros (hour, minute, second, fraction), zone)

def fromIsoFormat (text : List Char) : Option IsoTime := do
  if text.length < 7 then none else
  let day ← date? (text.take (separatorAt text))
  let midnight := ((day : Int) - ordinal 1970 1 1) * 86400000000
  if text.length = separatorAt text then some ⟨midnight, none⟩ else
  let (time, offset) ← time? (text.drop (separatorAt text + 1))
  some ⟨midnight + time, offset⟩

/-- The instant, in microseconds since the epoch; a time without a zone is read as UTC. -/
def instant (t : IsoTime) : Int := t.clock - t.offset.getD 0

example : (fromIsoFormat "2026-03-01T10:00:00+01:00".toList).map instant = some 1772355600000000 := by
  decide

end IsoTime
