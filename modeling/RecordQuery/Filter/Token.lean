import RecordQuery.Caller.User
import RecordQuery.Schema.Registry
import RecordQuery.Value.NativeDate

/-!
Texts that stand for a value known only when a filter is compiled: the caller, an attribute of the
caller, or a date relative to the clock. Periods are those of universal time; weeks begin on Monday.
-/

namespace RecordQuery

/-- Everything a compilation reads besides the filter. -/
structure FilterContext where
  registry : Registry
  user : User
  now : Instant

/-- A token that names a date outside the calendar. -/
inductive TokenError
  | dayOutOfRange
  | outOfRange (token : String)
  deriving DecidableEq, Repr

namespace TokenError

def message : TokenError → String
  | dayOutOfRange => "date out of range"
  | outOfRange token => "date token " ++ token ++ " is out of range"

end TokenError

namespace DateToken

open Calendar

/-- Dates that depend on the clock alone. -/
inductive Fixed
  | now
  | today
  | yesterday
  | startOfWeek
  | startOfMonth
  | startOfYear
  | endOfDay
  | endOfWeek
  | endOfMonth
  | endOfYear
  deriving DecidableEq, Repr

/-- Dates some units away from the clock. -/
inductive Unit
  | hours
  | days
  | months
  deriving DecidableEq, Repr

namespace Fixed

def all : List Fixed :=
  [now, today, yesterday, startOfWeek, startOfMonth, startOfYear, endOfDay, endOfWeek, endOfMonth,
    endOfYear]

def name : Fixed → String
  | now => "$now"
  | today => "$today"
  | yesterday => "$yesterday"
  | startOfWeek => "$startOfWeek"
  | startOfMonth => "$startOfMonth"
  | startOfYear => "$startOfYear"
  | endOfDay => "$endOfDay"
  | endOfWeek => "$endOfWeek"
  | endOfMonth => "$endOfMonth"
  | endOfYear => "$endOfYear"

/-- The first day of a month. -/
def firstOfMonth (day : Int) : Int :=
  let date := Date.ofDay day
  Date.toDay { date with day := 1 }

def shiftDay (day amount : Int) : Except TokenError Int :=
  match checkDay? (day + amount) with
  | some n => .ok n
  | none => .error .dayOutOfRange

def orOutOfRange (token : Fixed) : Option Int → Except TokenError Int
  | some n => .ok n
  | none => .error (.outOfRange token.name)

def resolve (token : Fixed) (clock : Instant) : Except TokenError Instant :=
  let day := clock.day
  let sinceMonday := daysSinceMonday day
  match token with
  | now => .ok clock
  | today => .ok (Instant.ofDay day)
  | yesterday => (shiftDay day (-1)).map Instant.ofDay
  | startOfWeek => (shiftDay day (-sinceMonday)).map Instant.ofDay
  | startOfMonth => .ok (Instant.ofDay (firstOfMonth day))
  | startOfYear => (orOutOfRange token (startOfYear? (Date.ofDay day).year)).map Instant.ofDay
  | endOfDay => .ok (Instant.endOfDay day)
  | endOfWeek => (shiftDay day (6 - sinceMonday)).map Instant.endOfDay
  | endOfMonth =>
    (orOutOfRange token ((addMonths? (firstOfMonth day) 1).map (· - 1))).map Instant.endOfDay
  | endOfYear =>
    (orOutOfRange token ((startOfYear? ((Date.ofDay day).year + 1)).map (· - 1))).map
      Instant.endOfDay

end Fixed

/-- A number below `2 ^ 32`, with an optional plus sign. -/
def amount? (s : String) : Option Nat :=
  (Path.index? s).bind fun n => if n < Word.bound32 then some n else none

/-- The unit and the direction of a relative token. -/
def relative? (name : String) : Option (Unit × Bool) :=
  match name with
  | "$hoursAgo" => some (.hours, false)
  | "$hoursFromNow" => some (.hours, true)
  | "$daysAgo" => some (.days, false)
  | "$daysFromNow" => some (.days, true)
  | "$monthsAgo" => some (.months, false)
  | "$monthsFromNow" => some (.months, true)
  | _ => none

/-- Hours move the clock itself, days and months its midnight. -/
def shift? (unit : Unit) (later : Bool) (n : Nat) (clock : Instant) : Option Instant :=
  let amount : Int := if later then n else -(n : Int)
  match unit with
  | .hours => clock.addSeconds? (3600 * amount)
  | .days => (checkDay? (clock.day + amount)).map Instant.ofDay
  | .months => (addMonths? clock.day amount).map Instant.ofDay

/-- `none` for a text that names no date. -/
def resolve (raw : String) (clock : Instant) : Except TokenError (Option Instant) :=
  match Fixed.all.find? fun token => token.name = raw with
  | some token => (token.resolve clock).map some
  | none =>
    match Text.splitOnce? ':' raw with
    | none => .ok none
    | some (name, amount) =>
      match relative? name, amount? amount with
      | some (unit, later), some n =>
        match shift? unit later n clock with
        | some t => .ok (some t)
        | none => .error (.outOfRange raw)
      | _, _ => .ok none

end DateToken

namespace Token

def ids (names : List String) : Value := .arr (names.map .str)

def orNull : Option String → Value
  | some s => .str s
  | none => .null

/-- The value a token stands for; `none` for an ordinary text. -/
def resolve (raw : String) (ctx : FilterContext) : Except TokenError (Option Value) :=
  if !raw.startsWith "$" then .ok none
  else if raw = "$user" then .ok (some (.str ctx.user.id))
  else if raw = "$group" then .ok (some (orNull ctx.user.group))
  else if raw = "$groups" then .ok (some (ids ctx.user.groups))
  else if raw = "$allgroups" then .ok (some (ids ctx.user.allGroups))
  else
    match Text.after? "$user." raw with
    | some path =>
      if path = "" then (DateToken.resolve raw ctx.now).map (·.map Value.ofDate)
      else .ok (some ((ctx.user.lookup? path).getD .null))
    | none => (DateToken.resolve raw ctx.now).map (·.map Value.ofDate)

end Token

end RecordQuery
