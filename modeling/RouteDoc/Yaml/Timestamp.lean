import RouteDoc.Text.Blank
import RouteDoc.Text.Word

/-!
# Timestamps

How a date, or a date and a time, is spelled in YAML.

* `Timestamp.read?`: a date, or a date and a time behind a `T` or blanks, with fractions of a second
  and a time zone if wanted.
* `Timestamp.isSpelled`: whether a text without quotes is one.
* `Timestamp.isValid`: whether there is such a day, time and zone.
-/

namespace RouteDoc.Yaml

/-- A time of day, and the hours and minutes that its zone is away from the mean one. -/
structure ClockTime where
  hour : Nat
  minute : Nat
  second : Nat
  zoneHours : Nat := 0
  zoneMinutes : Nat := 0
  deriving DecidableEq, Inhabited

structure Timestamp where
  year : Nat
  month : Nat
  day : Nat
  time : Option ClockTime := none
  deriving DecidableEq, Inhabited

namespace Timestamp

/-- The value of the digits in front, at least `least` and at most `most` of them, and the rest. -/
def cutDigits? (least most : Nat) (s : List Char) : Option (Nat × List Char) :=
  let ds := (s.take most).takeWhile Chars.isAsciiDigit
  if least ≤ ds.length then
    some (ds.foldl (fun n d => 10 * n + (d.toNat - 0x30)) 0, s.drop ds.length)
  else none

def cutMark? (mark : Char) : List Char → Option (List Char)
  | c :: r => if c = mark then some r else none
  | [] => none

/-- The text behind the mark between a date and a time. -/
def cutGap? (s : List Char) : Option (List Char) :=
  match s with
  | c :: r =>
    if c = 'T' ∨ c = 't' then some r
    else if Chars.isIndent c then some (r.dropWhile Chars.isIndent)
    else none
  | [] => none

def dropFraction : List Char → List Char
  | '.' :: r => r.dropWhile Chars.isAsciiDigit
  | s => s

def readZone? (s : List Char) : Option (Nat × Nat) :=
  if s = [] then some (0, 0)
  else match s.dropWhile Chars.isIndent with
    | ['Z'] => some (0, 0)
    | c :: r =>
      if c = '-' ∨ c = '+' then do
        let (hours, r) ← cutDigits? 1 2 r
        match r with
        | [] => some (hours, 0)
        | ':' :: r =>
          let (minutes, r) ← cutDigits? 2 2 r
          if r = [] then some (hours, minutes) else none
        | _ => none
      else none
    | [] => none

def readTime? (s : List Char) : Option ClockTime := do
  let (hour, s) ← cutDigits? 1 2 s
  let (minute, s) ← cutDigits? 2 2 (← cutMark? ':' s)
  let (second, s) ← cutDigits? 2 2 (← cutMark? ':' s)
  let (zoneHours, zoneMinutes) ← readZone? (dropFraction s)
  some ⟨hour, minute, second, zoneHours, zoneMinutes⟩

/-- Reads a day, or a time on it. -/
def read? (s : List Char) : Option Timestamp := do
  let (year, r) ← cutDigits? 4 4 s
  let (month, r) ← cutDigits? 1 2 (← cutMark? '-' r)
  let (day, r) ← cutDigits? 1 2 (← cutMark? '-' r)
  if r = [] then some { year, month, day }
  else some { year, month, day, time := some (← readTime? (← cutGap? r)) }

/-- Whether a text is spelled like a timestamp; a day without a time needs all its digits. -/
def isSpelled (s : List Char) : Bool := (read? s).any fun t => t.time.isSome || s.length == 10

def isLeapYear (year : Nat) : Bool := year % 4 == 0 && (year % 100 != 0 || year % 400 == 0)

def daysIn (year month : Nat) : Nat :=
  if month = 2 then (if isLeapYear year then 29 else 28)
  else if month ∈ [4, 6, 9, 11] then 30 else 31

def isValid (t : Timestamp) : Bool :=
  1 ≤ t.year && 1 ≤ t.month && t.month ≤ 12 && 1 ≤ t.day && t.day ≤ daysIn t.year t.month &&
    t.time.all fun c =>
      c.hour < 24 && c.minute < 60 && c.second < 60 && c.zoneHours * 60 + c.zoneMinutes < 24 * 60

end Timestamp

end RouteDoc.Yaml
