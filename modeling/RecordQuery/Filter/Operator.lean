/-!
Operators of conditions and the types of terms that admit them.
-/

namespace RecordQuery

inductive Operator
  | equals
  | notEquals
  | startsWith
  | endsWith
  | contains
  | notContains
  | lessThan
  | greaterThan
  | lessOrEquals
  | greaterOrEquals
  | between
  | currentUser
  | notCurrentUser
  | currentUserGroup
  | notCurrentUserGroup
  | currentUserGroups
  | isIn
  | isNotIn
  | isPresent
  deriving DecidableEq, Repr

namespace Operator

def all : List Operator :=
  [equals, notEquals, startsWith, endsWith, contains, notContains, lessThan, greaterThan,
    lessOrEquals, greaterOrEquals, between, currentUser, notCurrentUser, currentUserGroup,
    notCurrentUserGroup, currentUserGroups, isIn, isNotIn, isPresent]

def name : Operator → String
  | equals => "equals"
  | notEquals => "not_equals"
  | startsWith => "starts_with"
  | endsWith => "end_with"
  | contains => "contains"
  | notContains => "not_contains"
  | lessThan => "less_than"
  | greaterThan => "greater_than"
  | lessOrEquals => "less_or_equals"
  | greaterOrEquals => "greater_or_equals"
  | between => "between"
  | currentUser => "current_user"
  | notCurrentUser => "not_current_user"
  | currentUserGroup => "current_user_group"
  | notCurrentUserGroup => "not_current_user_group"
  | currentUserGroups => "current_user_groups"
  | isIn => "in"
  | isNotIn => "not_in"
  | isPresent => "exists"

def ofName? (name : String) : Option Operator := all.find? fun op => op.name = name

/-- Operators that take their operand from the caller and not from the condition. -/
def isCallerRelative : Operator → Bool
  | currentUser | notCurrentUser | currentUserGroup | notCurrentUserGroup
  | currentUserGroups => true
  | _ => false

/-- Operator names as a message lists them. -/
def join (ops : List Operator) : String := ", ".intercalate (ops.map name)

end Operator

/-- The type of a term: the type of its field with the path below it. -/
abbrev TermType := String

namespace TermType

open Operator

/-- Operators that a type admits; other types cannot be filtered. -/
def operators? (type : TermType) : Option (List Operator) :=
  match type with
  | "text" | "url" | "email.address" | "phone.phoneNumber" | "address.city" =>
    some [isPresent, equals, notEquals, isIn, isNotIn, contains, notContains, startsWith, endsWith]
  | "number" | "autoNumber" | "date" | "dateTime" | "money.currency" | "money.value"
  | "address.geolocation.0" | "address.geolocation.1" =>
    some [isPresent, equals, notEquals, isIn, isNotIn, lessThan, greaterThan, lessOrEquals,
      greaterOrEquals, between]
  | "percentage" =>
    some [isPresent, equals, notEquals, lessThan, greaterThan, lessOrEquals, greaterOrEquals,
      between]
  | "boolean" | "encrypted" | "address.country" | "address.number" =>
    some [isPresent, equals, notEquals]
  | "address.state" | "address.district" | "phone.countryCode" | "picklist" =>
    some [isPresent, equals, notEquals, isIn, isNotIn]
  | "address.place" | "address.postalCode" | "address.complement" =>
    some [isPresent, equals, notEquals, contains]
  | "personName.first" | "personName.last" | "personName.full" =>
    some [isPresent, equals, notEquals, contains, notContains, startsWith, endsWith]
  | "lookup._id" | "ObjectId" =>
    some [isPresent, equals, notEquals, isIn, isNotIn, currentUser, notCurrentUser,
      currentUserGroup, notCurrentUserGroup, currentUserGroups]
  | "lookup" | "filter" | "filter.conditions" | "file" => some [isPresent]
  | "richText" => some [isPresent, contains]
  | _ => none

/-- Types whose texts are read as numbers. -/
def isNumeric (type : TermType) : Bool :=
  ["number", "autoNumber", "percentage", "money.value", "address.geolocation.0",
    "address.geolocation.1"].contains type

def isDate (type : TermType) : Bool := type = "date" || type = "dateTime"

end TermType

end RecordQuery
