-- SUMMARY: Dates and times in TOML, and in texts that stand for them.
import EthRpc.Digits

/-!
# Dates and times

A moment is a date, a time, or both, and then it may have an offset. It is kept
as text in normal form. A text by itself that stands for a moment is read a
little more freely: midnight may be at the end of the day, and all that counts
of an offset is how many minutes it has.
-/

namespace EthRpc.Toml

/-- Take something off the front of a text. -/
abbrev Reader (α : Type) := List Char → Option (α × List Char)

/-- Two digits with a value in a range. -/
def pair? (low high : Nat) : Reader (List Char)
  | a :: b :: cs => do
    let n ← readDigits? 10 0 [a, b]
    if low ≤ n ∧ n ≤ high then some ([a, b], cs) else none
  | _ => none

def daysIn (year month : Nat) : Nat :=
  if month = 2 then
    if year % 4 = 0 ∧ (year % 100 ≠ 0 ∨ year % 400 = 0) then 29 else 28
  else if [4, 6, 9, 11].contains month then 30
  else 31

def date? : Reader (List Char)
  | a :: b :: c :: d :: '-' :: cs => do
    let year ← readDigits? 10 0 [a, b, c, d]
    let (month, rest) ← pair? 1 12 cs
    match rest with
    | '-' :: rest =>
      let (day, rest) ← pair? 1 (daysIn year ((readDigits? 10 0 month).getD 1)) rest
      return ([a, b, c, d, '-'] ++ month ++ ['-'] ++ day, rest)
    | _ => none
  | _ => none

/-- The fraction of a second to the nanosecond, without zeros at the end. -/
def fractionText (ds : List Char) : List Char :=
  match ((ds.take 9).reverse.dropWhile (· = '0')).reverse with
  | [] => []
  | kept => '.' :: kept

/-- A time whose hour is at most `lastHour`. -/
def time? (lastHour : Nat) (cs : List Char) : Option (List Char × List Char) := do
  let (hour, rest) ← pair? 0 lastHour cs
  match rest with
  | ':' :: rest =>
    let (minute, rest) ← pair? 0 59 rest
    match rest with
    | ':' :: rest =>
      let (second, rest) ← pair? 0 60 rest
      let clock := hour ++ [':'] ++ minute ++ [':'] ++ second
      match rest with
      | '.' :: rest =>
        let ds := rest.takeWhile Char.isDigit
        if ds = [] then none else return (clock ++ fractionText ds, rest.drop ds.length)
      | rest => return (clock, rest)
    | _ => none
  | _ => none

def offset? : Reader (List Char)
  | 'Z' :: cs | 'z' :: cs => some (['Z'], cs)
  | c :: cs =>
    if c = '+' ∨ c = '-' then do
      let (hour, rest) ← pair? 0 23 cs
      match rest with
      | ':' :: rest =>
        let (minute, rest) ← pair? 0 59 rest
        let sign := if (hour ++ minute).all (· = '0') then '+' else c
        return (sign :: hour ++ [':'] ++ minute, rest)
      | _ => none
    else none
  | [] => none

/-- A date, a time, or both with or without an offset, in normal form. -/
def moment? (cs : List Char) : Option (List Char × List Char) :=
  match date? cs with
  | none => time? 23 cs
  | some (date, rest) =>
    match rest with
    | c :: after =>
      if c = 'T' ∨ c = 't' ∨ c = ' ' then
        match time? 23 after with
        | some (time, rest) =>
          let (offset, rest) := (offset? rest).getD ([], rest)
          some (date ++ ['T'] ++ time ++ offset, rest)
        | none => if c = ' ' then some (date, rest) else none
      else some (date, rest)
    | [] => some (date, rest)

/-! ## Texts -/

/-- A number in two digits. -/
def twoDigits (n : Nat) : List Char := (if n < 10 then ['0'] else []) ++ Nat.toDigits 10 n

/-- An offset of at most a day, by the minute. -/
def freeOffset? : Reader (List Char)
  | 'Z' :: cs | 'z' :: cs => some (['Z'], cs)
  | c :: cs =>
    if c = '+' ∨ c = '-' then do
      let (hour, rest) ← pair? 0 99 cs
      match rest with
      | ':' :: rest =>
        let (minute, rest) ← pair? 0 99 rest
        let total := 60 * (← readDigits? 10 0 hour) + (← readDigits? 10 0 minute)
        let sign := if total = 0 then '+' else c
        if 24 * 60 < total then none
        else some (sign :: twoDigits (total / 60) ++ [':'] ++ twoDigits (total % 60), rest)
      | _ => none
    else none
  | [] => none

/-- The normal form of a text that is a date, a time, or both. -/
def momentOfText? (s : String) : Option String := do
  let cs := s.toList
  let (text, rest) ←
    if cs[2]? = some ':' then time? 24 cs
    else do
      let (date, rest) ← date? cs
      match rest with
      | [] => some (date, [])
      | c :: after =>
        if c = 'T' ∨ c = 't' ∨ c = ' ' then
          let (time, rest) ← time? 24 after
          let (offset, rest) ← if rest = [] then some ([], []) else freeOffset? rest
          some (date ++ ['T'] ++ time ++ offset, rest)
        else none
  if rest = [] then some (String.ofList text) else none

end EthRpc.Toml
