import Wotemu.Foundation.Numerals
import Wotemu.Foundation.Value

/-! The times of Docker tasks as the reader parses them.

The text is split by a regular expression into a date with the time of day and
a fraction of a second. Any decimal digit matches, but not all of them make a
date for `strptime`. Dates are counted in days as the Python library does.
-/

set_option autoImplicit false

namespace Wotemu

open Wotemu.Foundation

/-- What `\d` matches. -/
def isDecimal (c : Char) : Bool := (decimalDigit c).isSome

def dockerTimeShape : List Char := "0000-00-00T00:00:00".toList

def fitsShape : List Char → List Char → Bool
  | [], [] => true
  | expected :: shape, c :: text =>
    (if expected = '0' then isDecimal c else c = expected) && fitsShape shape text
  | _, _ => false

/-- `re.match(_DOCKER_TIME_REGEX, val)`: the two groups. The character between them is any but
a line break, which may also follow the end. -/
def matchDockerTime (val : String) : Option (List Char × List Char) :=
  let stamp := val.toList.take 19
  if fitsShape dockerTimeShape stamp then
    match val.toList.drop 19 with
    | mark :: tail =>
      let digits := tail.takeWhile isDecimal
      let ending := tail.dropWhile isDecimal
      if mark ≠ '\n' ∧ digits ≠ [] ∧ (ending = ['Z'] ∨ ending = ['Z', '\n']) then some (stamp, digits)
      else none
    | [] => none
  else none

/-- `int(text)` for a text of digits. -/
def digitsValue (digits : List Char) : Nat :=
  digits.foldl (fun value c => 10 * value + (decimalDigit c).getD 0) 0

/-- Two digits as `strptime` takes them: only behind some first ones may any digit follow. -/
def fitsField (free : List Char) : List Char → Bool
  | [first, second] => first.isDigit && (second.isDigit || free.contains first)
  | _ => false

def isLeap (year : Nat) : Bool := year % 4 = 0 && (year % 100 ≠ 0 || year % 400 = 0)

def daysInMonth (year month : Nat) : Nat :=
  if month = 2 then if isLeap year then 29 else 28
  else if month = 4 ∨ month = 6 ∨ month = 9 ∨ month = 11 then 30 else 31

def daysBeforeYear (year : Nat) : Nat :=
  365 * (year - 1) + (year - 1) / 4 - (year - 1) / 100 + (year - 1) / 400

def daysBeforeMonth (year month : Nat) : Nat :=
  (List.range (month - 1)).foldl (fun days before => days + daysInMonth year (before + 1)) 0

def epochOrdinal : Nat := 719163

/-- `datetime.strptime(stamp, "%Y-%m-%dT%H:%M:%S")` in UTC, in seconds since the epoch. -/
def strptime (stamp : List Char) : Except PyError Int :=
  let part := fun start size => (stamp.drop start).take size
  let year := digitsValue (part 0 4)
  let month := digitsValue (part 5 2)
  let day := digitsValue (part 8 2)
  let hour := digitsValue (part 11 2)
  let minute := digitsValue (part 14 2)
  let second := digitsValue (part 17 2)
  let fits := fitsField [] (part 5 2) && fitsField ['1', '2'] (part 8 2) && fitsField ['0', '1'] (part 11 2) &&
    fitsField "012345".toList (part 14 2) && fitsField "0123456".toList (part 17 2)
  if fits ∧ 1 ≤ year ∧ 1 ≤ month ∧ month ≤ 12 ∧ 1 ≤ day ∧ day ≤ daysInMonth year month ∧
      hour ≤ 23 ∧ minute ≤ 59 ∧ second ≤ 59 then
    let days : Int := (daysBeforeYear year + daysBeforeMonth year month + day : Nat) - (epochOrdinal : Int)
    .ok (days * 86400 + (hour * 3600 + minute * 60 + second : Nat))
  else .error .valueError

/-- `_parse_docker_time` in microseconds since the epoch. -/
def parseDockerTime (val : String) : Except PyError (Option Int) :=
  match matchDockerTime val with
  | none => .ok none
  | some (stamp, fraction) => do
    let seconds ← strptime stamp
    return some (seconds * 1000000 + (digitsValue (fraction.take 6) : Nat))

example : parseDockerTime "2020-11-17T10:20:30.123456789Z" = .ok (some 1605608430123456) := by decide

end Wotemu
