import Mathlib.Tactic

/-!
# ISO 8601 date-times

The extended form `YYYY-MM-DDTHH:MM:SS[.ffffff](Z|±HH:MM)`, read as microseconds
since the start of year one. Digits beyond the sixth of a fraction are dropped.
-/

namespace IsoTime

def digit? (c : Char) : Option Nat :=
  if c.isDigit then some (c.toNat - '0'.toNat) else none

/-- Exactly `count` decimal digits, and the rest of the text. -/
def number? : Nat → List Char → Option (Nat × List Char)
  | count, text => go count 0 text
where
  go : Nat → Nat → List Char → Option (Nat × List Char)
    | 0, value, rest => some (value, rest)
    | _ + 1, _, [] => none
    | count + 1, value, c :: rest =>
        match digit? c with
        | some digit => go count (value * 10 + digit) rest
        | none => none

def literal? (c : Char) : List Char → Option (List Char)
  | [] => none
  | first :: rest => if first = c then some rest else none

def leapYear (year : Nat) : Bool := year % 4 = 0 && (year % 100 != 0 || year % 400 = 0)

def monthLengths (year : Nat) : List Nat :=
  [31, if leapYear year then 29 else 28, 31, 30, 31, 30, 31, 31, 30, 31, 30, 31]

/-- Days from the start of year one to the start of the given day. -/
def dayNumber (year month day : Nat) : Nat :=
  let past := year - 1
  past * 365 + past / 4 - past / 100 + past / 400 +
    ((monthLengths year).take (month - 1)).sum + (day - 1)

/-- The digits of a fraction, scaled to microseconds. -/
def fraction : List Char → Nat → Nat → Nat × List Char
  | [], scale, value => (value * scale, [])
  | c :: rest, scale, value =>
      match digit? c with
      | none => (value * scale, c :: rest)
      | some digit =>
          if scale = 1 then fraction rest 1 value
          else fraction rest (scale / 10) (value * 10 + digit)

def microseconds? (text : List Char) : Option (Nat × List Char) :=
  match text with
  | '.' :: c :: rest =>
      match digit? c with
      | some _ => some (fraction (c :: rest) 1000000 0)
      | none => none
  | _ => some (0, text)

/-- Minutes east of UTC. -/
def offset? : List Char → Option Int
  | ['Z'] => some 0
  | c :: rest =>
      if c = '+' ∨ c = '-' then
        match number? 2 rest with
        | some (hours, ':' :: rest) =>
            match number? 2 rest with
            | some (minutes, []) =>
                if hours * 60 + minutes < 1440 then
                  some (if c = '+' then (hours * 60 + minutes : Nat)
                    else -((hours * 60 + minutes : Nat) : Int))
                else none
            | _ => none
        | _ => none
      else none
  | [] => none

/-- The rest of a date-time, from its time zone on. -/
def zoned : List Char → Bool
  | ['Z'] => true
  | [sign, h₁, h₂, ':', m₁, m₂] =>
      (sign = '+' || sign = '-') && [h₁, h₂, m₁, m₂].all Char.isDigit
  | _ => false

/-- The text has the form of a date-time, whatever day and time it names. -/
def shaped (text : String) : Bool :=
  let rest := do
    let (_, rest) ← number? 4 text.toList
    let (_, rest) ← number? 2 (← literal? '-' rest)
    let (_, rest) ← number? 2 (← literal? '-' rest)
    let (_, rest) ← number? 2 (← literal? 'T' rest)
    let (_, rest) ← number? 2 (← literal? ':' rest)
    let (_, rest) ← number? 2 (← literal? ':' rest)
    let (_, rest) ← microseconds? rest
    some rest
  rest.any zoned

/-- The point in time that a date-time text names. -/
def instant? (text : String) : Option Int := do
  let (year, rest) ← number? 4 text.toList
  let (month, rest) ← number? 2 (← literal? '-' rest)
  let (day, rest) ← number? 2 (← literal? '-' rest)
  let (hour, rest) ← number? 2 (← literal? 'T' rest)
  let (minute, rest) ← number? 2 (← literal? ':' rest)
  let (second, rest) ← number? 2 (← literal? ':' rest)
  let (micros, rest) ← microseconds? rest
  let offset ← offset? rest
  if 1 ≤ year ∧ 1 ≤ month ∧ month ≤ 12 ∧ 1 ≤ day ∧
      day ≤ (monthLengths year).getD (month - 1) 0 ∧ hour < 24 ∧ minute < 60 ∧ second < 60 then
    let seconds : Nat :=
      ((dayNumber year month day * 24 + hour) * 60 + minute) * 60 + second
    some ((seconds * 1000000 + micros : Nat) - offset * 60000000)
  else none

example : instant? "2026-02-28T11:00:00Z" = instant? "2026-02-28T12:30:00.0+01:30" := by
  decide +kernel

example : shaped "2026-02-29T00:00:00Z" = true ∧ instant? "2026-02-29T00:00:00Z" = none := by
  decide +kernel

end IsoTime
