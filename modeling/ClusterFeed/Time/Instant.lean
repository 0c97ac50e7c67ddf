import ClusterFeed.Time.Calendar
import ClusterFeed.Text.Blank

/-!
# Instants

Points of time to the nanosecond, and their texts after RFC 3339. An instant inside a leap second
belongs to the second before it and has more than a thousand million nanoseconds.

A text is read leniently in its layout (blanks between the parts, a blank in place of the `T`, a
missing colon in the offset) and strictly in its values. It is always written in universal time.
-/

namespace ClusterFeed.Time

/-- A point of time. -/
structure Instant where
  /-- Seconds since 1970 in universal time. -/
  seconds : Int
  /-- Nanoseconds after the second; from `10 ^ 9` on in a leap second. -/
  nanos : Nat
  deriving DecidableEq, Repr, Inhabited

namespace Instant

/-- A number with at least the given count of digits. -/
def padded (width n : Nat) : List Char :=
  let ds := Nat.toDigits 10 n
  List.replicate (width - ds.length) '0' ++ ds

/-- A year: four digits, with a sign when four do not suffice. -/
def yearChars (y : Int) : List Char :=
  if 0 ≤ y ∧ y ≤ 9999 then padded 4 y.toNat
  else if 0 ≤ y then '+' :: padded 4 y.toNat
  else '-' :: padded 4 (-y).toNat

/-- The date and time to the second. -/
def secondChars (t : Instant) : List Char :=
  let d := Date.ofDayNumber (t.seconds.fdiv 86400)
  let s := (t.seconds - t.seconds.fdiv 86400 * 86400).toNat
  let leap := if t.nanos ≥ 1000000000 then 1 else 0
  yearChars d.year ++ '-' :: padded 2 d.month ++ '-' :: padded 2 d.day ++ 'T' ::
    padded 2 (s / 3600) ++ ':' :: padded 2 (s / 60 % 60) ++ ':' :: padded 2 (s % 60 + leap)

/-- The fraction of a second: none, or the least of three, six and nine digits that is exact. -/
def fractionChars (nanos : Nat) : List Char :=
  let n := nanos % 1000000000
  if n = 0 then []
  else if n % 1000000 = 0 then '.' :: padded 3 (n / 1000000)
  else if n % 1000 = 0 then '.' :: padded 6 (n / 1000)
  else '.' :: padded 9 n

/-- The text of an instant with its exact fraction. -/
def render (t : Instant) : String :=
  String.ofList (t.secondChars ++ fractionChars t.nanos ++ ['Z'])

/-- The text of an instant to the second. -/
def renderSeconds (t : Instant) : String :=
  String.ofList (t.secondChars ++ ['Z'])

/-- Reads at least one and at most `width` digits. -/
def number? (width : Nat) (cs : List Char) : Option (Nat × List Char) :=
  let ds := (cs.take width).takeWhile Char.isDigit
  if ds.isEmpty then none
  else some (ds.foldl (fun n d => n * 10 + (d.toNat - 48)) 0, cs.drop ds.length)

/-- Reads a number of at most two digits after blanks. -/
def pair? (cs : List Char) : Option (Nat × List Char) :=
  number? 2 (Text.trimStart cs)

/-- Reads the given character after blanks. -/
def mark? (c : Char) (cs : List Char) : Option (List Char) :=
  match Text.trimStart cs with
  | x :: rest => if x == c then some rest else none
  | [] => none

/-- Reads a year: four digits at most, or a sign and any number of digits. -/
def year? (cs : List Char) : Option (Int × List Char) :=
  match Text.trimStart cs with
  | '-' :: rest => (number? rest.length rest).map fun r => (-(r.1 : Int), r.2)
  | '+' :: rest => (number? rest.length rest).map fun r => ((r.1 : Int), r.2)
  | rest => (number? 4 rest).map fun r => ((r.1 : Int), r.2)

/-- Reads a fraction of a second, if there is one; digits beyond the ninth are passed over. -/
def fraction? : List Char → Option (Nat × List Char)
  | '.' :: cs =>
    (number? 9 cs).map fun r =>
      (r.1 * Nat.pow 10 (9 - (cs.length - r.2.length)), r.2.dropWhile Char.isDigit)
  | cs => some (0, cs)

/-- Whether the characters begin with the letters of universal time, in either case. -/
def beginsUniversal : List Char → Bool
  | a :: b :: c :: _ => a.toUpper == 'U' && b.toUpper == 'T' && c.toUpper == 'C'
  | _ => false

/-- Reads two digits. -/
def twoDigits? : List Char → Option (Nat × List Char)
  | a :: b :: cs =>
    if a.isDigit && b.isDigit then some ((a.toNat - 48) * 10 + (b.toNat - 48), cs) else none
  | _ => none

/-- Reads an offset from universal time in seconds. -/
def offset? (cs : List Char) : Option (Int × List Char) :=
  if beginsUniversal cs then some (0, cs.drop 3)
  else match cs with
    | [] => none
    | c :: rest =>
      if c == 'Z' || c == 'z' then some (0, rest)
      else if c == '+' || c == '-' || c == '\u2212' then do
        let (hours, rest) ← twoDigits? rest
        let rest := rest.dropWhile fun x => x == ':' || Text.isBlank x
        let (minutes, rest) ← twoDigits? rest
        if minutes ≥ 60 then none
        let seconds : Int := hours * 3600 + minutes * 60
        some (if c == '+' then seconds else -seconds, rest)
      else none

/-- The years that can be told. -/
def yearInRange (y : Int) : Bool :=
  -262143 ≤ y && y ≤ 262142

/-- Reads a date, a time and an offset. -/
def parse? (s : String) : Option Instant := do
  let (year, cs) ← year? s.toList
  let (month, cs) ← pair? (← mark? '-' cs)
  let (day, cs) ← pair? (← mark? '-' cs)
  let cs ← match cs with
    | 'T' :: rest => some rest
    | 't' :: rest => some rest
    | ' ' :: rest => some rest
    | _ => none
  let (hour, cs) ← pair? cs
  let (minute, cs) ← pair? (← mark? ':' cs)
  let (second, cs) ← pair? (← mark? ':' cs)
  let (nanos, cs) ← fraction? cs
  let (offset, cs) ← offset? (Text.trimStart cs)
  let date : Date := ⟨year, month, day⟩
  if !(Text.trimStart cs).isEmpty || !date.isValid || !yearInRange year || hour > 23 ||
      minute > 59 || second > 60 || offset.natAbs ≥ 86400 then none
  let leap : Nat := if second = 60 then 1 else 0
  let seconds : Int := date.dayNumber * 86400 + hour * 3600 + minute * 60 + second - leap - offset
  if !yearInRange (Date.ofDayNumber (seconds.fdiv 86400)).year then none
  some ⟨seconds, nanos + leap * 1000000000⟩

end Instant

end ClusterFeed.Time
