import RouteMap.Toml.Text

/-!
# TOML dates and times

A moment is a date, a time of day, or both with a letter T or a blank between them and
perhaps the distance from universal time behind them. `moment` reads one and tells only
what follows it: no configuration value is a moment, so none is kept.
-/

namespace RouteMap.Toml.Moment

/-- Two digits of a number between two bounds. -/
def two (low high : Nat) : Reader Nat
  | a :: b :: cs =>
    if a.isDigit ∧ b.isDigit then
      let n := (a.toNat - 48) * 10 + (b.toNat - 48)
      if low ≤ n ∧ n ≤ high then some (n, cs) else none
    else none
  | _ => none

/-- What follows a character. -/
def behind (c : Char) (cs : List Char) : Option (List Char) := Text.after? [c] cs

/-- How many days a month has. -/
def daysIn (year month : Nat) : Nat :=
  if month = 2 then
    if year % 4 = 0 ∧ (year % 100 ≠ 0 ∨ year % 400 = 0) then 29 else 28
  else if [4, 6, 9, 11].contains month then 30
  else 31

/-- What follows a date: a year of four digits, a month and a day. -/
def date (cs : List Char) : Option (List Char) := do
  let (century, cs) ← two 0 99 cs
  let (year, cs) ← two 0 99 cs
  let (month, cs) ← two 1 12 (← behind '-' cs)
  let (_, cs) ← two 1 (daysIn (century * 100 + year) month) (← behind '-' cs)
  return cs

/-- What follows the fraction of a second, if there is one. -/
def fraction (cs : List Char) : List Char :=
  match cs with
  | '.' :: rest => if rest.head?.any Char.isDigit then rest.dropWhile Char.isDigit else cs
  | _ => cs

/-- What follows a time of day: hours, minutes and seconds, which may be a leap second. -/
def time (cs : List Char) : Option (List Char) := do
  let (_, cs) ← two 0 23 cs
  let (_, cs) ← two 0 59 (← behind ':' cs)
  let (_, cs) ← two 0 60 (← behind ':' cs)
  return fraction cs

/-- What follows a distance from universal time. -/
def offset (cs : List Char) : Option (List Char) :=
  match cs with
  | 'Z' :: cs | 'z' :: cs => some cs
  | '+' :: cs | '-' :: cs => do
    let (_, cs) ← two 0 23 cs
    let (_, cs) ← two 0 59 (← behind ':' cs)
    return cs
  | _ => none

/-- What follows a time of day behind a date, with or without a distance. -/
def timeOfDate : List Char → Option (List Char)
  | d :: cs =>
    if d = 'T' ∨ d = 't' ∨ d = ' ' then (time cs).map fun cs => (offset cs).getD cs else none
  | [] => none

/-- What follows a moment. -/
def moment (cs : List Char) : Option (List Char) :=
  match date cs with
  | some cs => some ((timeOfDate cs).getD cs)
  | none => time cs

end RouteMap.Toml.Moment
