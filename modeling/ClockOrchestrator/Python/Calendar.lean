import ClockOrchestrator.Python.Datetime
import Mathlib.Data.Nat.Notation
import Mathlib.Algebra.GroupWithZero.Nat

namespace Python

def isLeap (year : ℕ) : Bool := year % 4 = 0 && (year % 100 ≠ 0 || year % 400 = 0)

def daysInMonth (year month : ℕ) : ℕ :=
  if month = 2 then if isLeap year then 29 else 28
  else if month ∈ [4, 6, 9, 11] then 30
  else 31

def daysBeforeYear (year : ℕ) : ℕ :=
  (year - 1) * 365 + (year - 1) / 4 - (year - 1) / 100 + (year - 1) / 400

def daysBeforeMonth (year month : ℕ) : ℕ :=
  ((List.range' 1 (month - 1)).map (daysInMonth year)).sum

def calendarDate (year month day : ℕ) : Option Date :=
  if 1 ≤ year ∧ 1 ≤ month ∧ month ≤ 12 ∧ 1 ≤ day ∧ day ≤ daysInMonth year month then
    some (daysBeforeYear year + daysBeforeMonth year month + day : ℕ)
  else none

-- A year has a week 53 if it starts on a Thursday, or is a leap year that starts on a Wednesday.
def weeksInYear (year : ℕ) : ℕ :=
  let weekday := (daysBeforeYear year + 1) % 7
  if weekday = 4 ∨ (weekday = 3 ∧ isLeap year) then 53 else 52

def isoWeekOneMonday (year : ℕ) : ℤ :=
  let firstDay : ℤ := daysBeforeYear year + 1
  let weekday := (firstDay + 6) % 7
  if 3 < weekday then firstDay - weekday + 7 else firstDay - weekday

def weekDate (year week day : ℕ) : Option Date :=
  let date := isoWeekOneMonday year + (week - 1) * 7 + (day - 1)
  if 1 ≤ year ∧ 1 ≤ week ∧ week ≤ weeksInYear year ∧ 1 ≤ day ∧ day ≤ 7 ∧ date ≤ 3652059 then
    some date
  else none

def number (digits : List Char) : Option ℕ :=
  if digits.all (·.isDigit) then some (Nat.ofDigitChars 10 digits 0) else none

def dateOf (make : ℕ → ℕ → ℕ → Option Date) (year middle day : List Char) : Option Date := do
  make (← number year) (← number middle) (← number day)

-- date.fromisoformat
def dateFromIso : List Char → Option Date
  | [a, b, c, d, '-', 'W', v, w, '-', u] => dateOf weekDate [a, b, c, d] [v, w] [u]
  | [a, b, c, d, '-', 'W', v, w] => dateOf weekDate [a, b, c, d] [v, w] ['1']
  | [a, b, c, d, 'W', v, w, u] => dateOf weekDate [a, b, c, d] [v, w] [u]
  | [a, b, c, d, 'W', v, w] => dateOf weekDate [a, b, c, d] [v, w] ['1']
  | [a, b, c, d, '-', m, n, '-', e, f] => dateOf calendarDate [a, b, c, d] [m, n] [e, f]
  | [a, b, c, d, m, n, e, f] => dateOf calendarDate [a, b, c, d] [m, n] [e, f]
  | _ => none

example : dateFromIso "2026-12-20".toList = dateFromIso "2026W517".toList := by decide

theorem dateOf_year {make : ℕ → ℕ → ℕ → Option Date} {c : Char} {year middle day : List Char}
    (h : (dateOf make (c :: year) middle day).isSome = true) : c.isDigit = true := by
  by_contra hdigit
  simp [dateOf, number, hdigit] at h

theorem dateFromIso_head {c : Char} {rest : List Char}
    (h : (dateFromIso (c :: rest)).isSome = true) : c.isDigit = true := by
  rw [dateFromIso.eq_def] at h
  split at h
  case h_7 => cases h
  all_goals
    rename_i heq
    rw [(List.cons.inj heq).1]
    exact dateOf_year h

end Python
