import RecordQuery.Calendar.Date

/-!
Instants of universal time, their written form and how it is read. A leap second is the second
before it with a billion or more nanoseconds.
-/

namespace RecordQuery

structure Instant where
  /-- Seconds since 1970-01-01T00:00:00Z. -/
  seconds : Int
  /-- Nanoseconds of the second, below two billion. -/
  nanos : Nat
  deriving DecidableEq, Repr

namespace Instant

open Calendar

def secondsPerDay : Int := 86400

def day (t : Instant) : Int := t.seconds / secondsPerDay

def secondOfDay (t : Instant) : Nat := (t.seconds % secondsPerDay).toNat

def date (t : Instant) : Date := Date.ofDay t.day

def ofDay (n : Int) : Instant := ⟨n * secondsPerDay, 0⟩

/-- The last millisecond of a day. -/
def endOfDay (n : Int) : Instant := ⟨n * secondsPerDay + 86399, 999000000⟩

def compare (a b : Instant) : Ordering :=
  if a.seconds < b.seconds then .lt
  else if b.seconds < a.seconds then .gt
  else Ord.compare a.nanos b.nanos

def toMillis (t : Instant) : Int := t.seconds * 1000 + ((t.nanos / 1000000 : Nat) : Int)

/-- The instant, if its day lies in the supported years. -/
def check? (t : Instant) : Option Instant := (checkDay? t.day).map fun _ => t

def ofMillis? (millis : Int) : Option Instant :=
  check? ⟨millis / 1000, (millis % 1000).toNat * 1000000⟩

/-- Whole seconds later or earlier. A leap second counts as the second before it when time is added
and as the one after it when time is taken away. -/
def addSeconds? (t : Instant) (amount : Int) : Option Instant :=
  if t.nanos < 1000000000 ∨ amount = 0 then check? ⟨t.seconds + amount, t.nanos⟩
  else if 0 < amount then check? ⟨t.seconds + amount, t.nanos - 1000000000⟩
  else check? ⟨t.seconds + 1 + amount, t.nanos - 1000000000⟩

/-- A number padded with zeros to a width. -/
def padded (width n : Nat) : String :=
  let ds := Nat.toDigits 10 n
  String.ofList (List.replicate (width - ds.length) '0' ++ ds)

/-- Years outside four digits carry a sign. -/
def yearText (year : Int) : String :=
  if 0 ≤ year ∧ year ≤ 9999 then padded 4 year.toNat
  else if 0 ≤ year then "+" ++ padded 4 year.toNat
  else "-" ++ padded 4 (-year).toNat

def monthText (d : Date) : String := yearText d.year ++ "-" ++ padded 2 d.month

def dayText (d : Date) : String := monthText d ++ "-" ++ padded 2 d.day

/-- Universal time to the millisecond, digits past it cut off; a leap second is number 60. -/
def text (t : Instant) : String :=
  let second := t.secondOfDay
  let leap := if t.nanos < 1000000000 then 0 else 1
  dayText t.date ++ "T" ++ padded 2 (second / 3600) ++ ":" ++ padded 2 (second / 60 % 60) ++ ":"
    ++ padded 2 (second % 60 + leap) ++ "." ++ padded 3 (t.nanos % 1000000000 / 1000000) ++ "Z"

/-- A fixed number of decimal digits and what follows them. -/
def takeDigits? (count : Nat) (cs : List Char) : Option (Nat × List Char) :=
  let ds := cs.take count
  if ds.length = count ∧ ds.all Char.isDigit then
    some (ds.foldl (fun n c => 10 * n + (c.toNat - 48)) 0, cs.drop count)
  else none

def takeChar? (c : Char) : List Char → Option (List Char)
  | [] => none
  | d :: rest => if d = c then some rest else none

/-- An optional fraction of a second in nanoseconds; digits past the ninth do not count. -/
def takeFraction? (cs : List Char) : Option (Nat × List Char) :=
  match cs with
  | '.' :: rest =>
    let ds := rest.takeWhile Char.isDigit
    if ds = [] then none
    else
      let nine := (ds ++ List.replicate 9 '0').take 9
      some (nine.foldl (fun n c => 10 * n + (c.toNat - 48)) 0, rest.dropWhile Char.isDigit)
  | _ => some (0, cs)

/-- Seconds east of universal time: `Z`, or a sign, hours, a colon and minutes. -/
def takeOffset? (cs : List Char) : Option (Int × List Char) :=
  match cs with
  | 'Z' :: rest | 'z' :: rest => some (0, rest)
  | sign :: rest =>
    if sign = '+' ∨ sign = '-' ∨ sign = '−' then do
      let (hours, rest) ← takeDigits? 2 rest
      let rest ← takeChar? ':' rest
      let (minutes, rest) ← takeDigits? 2 rest
      if hours < 24 ∧ minutes < 60 then
        let offset : Int := (hours * 3600 + minutes * 60 : Nat)
        return (if sign = '+' then offset else -offset, rest)
      else none
    else none
  | [] => none

/-- Reads `year-month-day`, a `T` or a space, `hour:minute:second`, a fraction and an offset. -/
def read? (s : String) : Option Instant := do
  let (year, cs) ← takeDigits? 4 s.toList
  let (month, cs) ← takeDigits? 2 (← takeChar? '-' cs)
  let (day, cs) ← takeDigits? 2 (← takeChar? '-' cs)
  let cs ← match cs with
    | 'T' :: rest | 't' :: rest | ' ' :: rest => some rest
    | _ => none
  let (hour, cs) ← takeDigits? 2 cs
  let (minute, cs) ← takeDigits? 2 (← takeChar? ':' cs)
  let (second, cs) ← takeDigits? 2 (← takeChar? ':' cs)
  let (nanos, cs) ← takeFraction? cs
  let (offset, cs) ← takeOffset? cs
  let n ← Date.day? year month day
  if cs = [] ∧ hour < 24 ∧ minute < 60 ∧ second ≤ 60 then
    let leap := if second = 60 then 1 else 0
    let ofDay : Int := (hour * 3600 + minute * 60 + (second - leap) : Nat)
    check? ⟨n * secondsPerDay + ofDay - offset, nanos + leap * 1000000000⟩
  else none

end Instant

end RecordQuery
