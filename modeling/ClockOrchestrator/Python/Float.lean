import ClockOrchestrator.Python.Datetime
import Mathlib.Data.Rat.Defs
import Mathlib.Algebra.Order.Ring.Rat
import Mathlib.Algebra.Order.Field.Basic
import Mathlib.Tactic.Linarith

namespace Python

inductive PyFloat where
  | finite (value : ℚ)
  | infinite (negative : Bool)
  | nan
  deriving DecidableEq, Repr

namespace PyFloat

def lt : PyFloat → PyFloat → Bool
  | .nan, _ => false
  | _, .nan => false
  | .finite a, .finite b => decide (a < b)
  | .finite _, .infinite negative => !negative
  | .infinite negative, .finite _ => negative
  | .infinite a, .infinite b => a && !b

def le : PyFloat → PyFloat → Bool
  | .nan, _ => false
  | _, .nan => false
  | .finite a, .finite b => decide (a ≤ b)
  | .finite _, .infinite negative => !negative
  | .infinite negative, .finite _ => negative
  | .infinite a, .infinite b => a || !b

def truthy : PyFloat → Bool
  | .finite value => decide (value ≠ 0)
  | .infinite _ => true
  | .nan => true

def pyMax (a b : PyFloat) : PyFloat := if lt a b then b else a

def pyMin (a b : PyFloat) : PyFloat := if lt b a then b else a

def orDefault (a : Option PyFloat) (default : PyFloat) : PyFloat :=
  match a with
  | some x => if x.truthy then x else default
  | none => default

def neg : PyFloat → PyFloat
  | .finite value => .finite (-value)
  | .infinite negative => .infinite (!negative)
  | .nan => .nan

theorem le_iff_not_lt {a b : PyFloat} (ha : a ≠ .nan) (hb : b ≠ .nan) :
    le a b = true ↔ lt b a = false := by
  cases a with
  | nan => exact absurd rfl ha
  | finite a => cases b <;> simp_all [le, lt]
  | infinite a =>
      cases b with
      | nan => exact absurd rfl hb
      | finite b => simp [le, lt]
      | infinite b => cases a <;> cases b <;> decide

theorem lt_irrefl (a : PyFloat) : lt a a = false := by
  cases a with
  | nan => rfl
  | finite value => simp [lt]
  | infinite negative => cases negative <;> rfl

theorem le_refl {a : PyFloat} (ha : a ≠ .nan) : le a a = true := by
  cases a with
  | nan => exact absurd rfl ha
  | finite a => simp [le]
  | infinite a => simp [le]

theorem not_le_nan (a : PyFloat) : le a .nan = false := by
  cases a <;> rfl

theorem pyMax_ne_nan {a b : PyFloat} (ha : a ≠ .nan) (hb : b ≠ .nan) : pyMax a b ≠ .nan := by
  unfold pyMax
  split
  · exact hb
  · exact ha

theorem pyMax_nan (b : PyFloat) : pyMax .nan b = .nan := rfl

theorem pyMin_nan (b : PyFloat) : pyMin .nan b = .nan := by
  cases b <;> rfl

theorem le_pyMax {a b : PyFloat} (ha : a ≠ .nan) (hb : b ≠ .nan) : le b (pyMax a b) = true := by
  unfold pyMax
  split
  · exact le_refl hb
  · next h => exact (le_iff_not_lt hb ha).mpr (by simpa using h)

theorem pyMin_le {a b : PyFloat} (ha : a ≠ .nan) (hb : b ≠ .nan) : le (pyMin a b) b = true := by
  unfold pyMin
  split
  · exact le_refl hb
  · next h => exact (le_iff_not_lt ha hb).mpr (by simpa using h)

theorem le_pyMin {a b c : PyFloat} (ha : le c a = true) (hb : le c b = true) :
    le c (pyMin a b) = true := by
  unfold pyMin
  split
  · exact hb
  · exact ha

theorem pyMax_eq_left {a b : PyFloat} (h : lt a b = false) : pyMax a b = a := by
  simp [pyMax, h]

theorem pyMin_eq_left {a b : PyFloat} (h : lt b a = false) : pyMin a b = a := by
  simp [pyMin, h]

end PyFloat

def roundHalfEven (n d : ℤ) : ℤ :=
  if 2 * (n % d) < d then n / d
  else if d < 2 * (n % d) then n / d + 1
  else if n / d % 2 = 0 then n / d
  else n / d + 1

theorem le_roundHalfEven {n d k : ℤ} (hd : 0 < d) (h : k * d ≤ n) : k ≤ roundHalfEven n d := by
  have hdown : k ≤ n / d := (Int.le_ediv_iff_mul_le hd).mpr h
  unfold roundHalfEven
  split
  · exact hdown
  · split
    · omega
    · split
      · exact hdown
      · omega

theorem roundHalfEven_le {n d k : ℤ} (hd : 0 < d) (h : n ≤ k * d) : roundHalfEven n d ≤ k := by
  have hdown : n / d ≤ k := Int.ediv_le_of_le_mul hd h
  unfold roundHalfEven
  rcases hdown.lt_or_eq with hbelow | heq
  · split
    · exact hdown
    · split
      · exact hbelow
      · split
        · exact hdown
        · exact hbelow
  · have hmod : n % d = 0 := by
      have hsplit := Int.emod_add_mul_ediv n d
      have hnonneg := Int.emod_nonneg n hd.ne'
      rw [heq, mul_comm] at hsplit
      omega
    rw [if_pos (by omega)]
    exact hdown

theorem le_roundHalfEven_of_le {q : ℚ} {k : ℤ} (h : (k : ℚ) ≤ q) :
    k ≤ roundHalfEven q.num q.den := by
  refine le_roundHalfEven (Int.natCast_pos.mpr q.den_pos) ?_
  have hscaled := Rat.le_iff k q
  rw [Rat.num_intCast, Rat.den_intCast, Int.natCast_one, mul_one] at hscaled
  exact hscaled.mp h

theorem roundHalfEven_le_of_le {q : ℚ} {k : ℤ} (h : q ≤ (k : ℚ)) :
    roundHalfEven q.num q.den ≤ k := by
  refine roundHalfEven_le (Int.natCast_pos.mpr q.den_pos) ?_
  have hscaled := Rat.le_iff q k
  rw [Rat.num_intCast, Rat.den_intCast, Int.natCast_one, mul_one] at hscaled
  exact hscaled.mp h

theorem roundHalfEven_near {n d : ℤ} (hd : 0 < d) :
    2 * n - d ≤ 2 * (roundHalfEven n d * d) ∧ 2 * (roundHalfEven n d * d) ≤ 2 * n + d := by
  have hsplit := Int.emod_add_mul_ediv n d
  have hlower := Int.emod_nonneg n hd.ne'
  have hupper := Int.emod_lt_of_pos n hd
  have hdown : n / d * d = n - n % d := by linarith [mul_comm d (n / d)]
  have hup : (n / d + 1) * d = n - n % d + d := by linarith [add_one_mul (n / d) d]
  unfold roundHalfEven
  split
  · rw [hdown]
    omega
  · split
    · rw [hup]
      omega
    · split
      · rw [hdown]
        omega
      · rw [hup]
        omega

theorem abs_roundHalfEven_sub_le (q : ℚ) : |(roundHalfEven q.num q.den : ℚ) - q| ≤ 1 / 2 := by
  have hden : (0 : ℚ) < q.den := by exact_mod_cast q.den_pos
  obtain ⟨hlower, hupper⟩ := roundHalfEven_near (n := q.num) (Int.natCast_pos.mpr q.den_pos)
  have hvalue : q * q.den = q.num := Rat.mul_den_eq_num q
  generalize roundHalfEven q.num q.den = rounded at hlower hupper ⊢
  have hlower' : 2 * (q.num : ℚ) - q.den ≤ 2 * (rounded * q.den) := by exact_mod_cast hlower
  have hupper' : 2 * (rounded * q.den : ℚ) ≤ 2 * q.num + q.den := by exact_mod_cast hupper
  rw [← hvalue] at hlower' hupper'
  rw [abs_le]
  constructor
  · by_contra hbelow
    nlinarith
  · by_contra habove
    nlinarith

theorem roundHalfEven_intCast (k : ℤ) : roundHalfEven (k : ℚ).num (k : ℚ).den = k :=
  le_antisymm (roundHalfEven_le_of_le le_rfl) (le_roundHalfEven_of_le le_rfl)

theorem roundHalfEven_mono {p q : ℚ} (h : p ≤ q) :
    roundHalfEven p.num p.den ≤ roundHalfEven q.num q.den := by
  by_contra hlt
  rw [not_le, ← Int.add_one_le_iff] at hlt
  have hstep : (roundHalfEven q.num q.den : ℚ) + 1 ≤ roundHalfEven p.num p.den := by
    exact_mod_cast hlt
  obtain ⟨-, hp⟩ := abs_le.mp (abs_roundHalfEven_sub_le p)
  obtain ⟨hq, -⟩ := abs_le.mp (abs_roundHalfEven_sub_le q)
  have heq : p = q := by linarith
  rw [heq] at hlt
  omega

-- The decimal digits of Unicode 15, script by script.
def decimalZeros : List ℕ :=
  [0x0030, 0x0660, 0x06F0, 0x07C0, 0x0966, 0x09E6, 0x0A66, 0x0AE6, 0x0B66, 0x0BE6, 0x0C66,
    0x0CE6, 0x0D66, 0x0DE6, 0x0E50, 0x0ED0, 0x0F20, 0x1040, 0x1090, 0x17E0, 0x1810, 0x1946,
    0x19D0, 0x1A80, 0x1A90, 0x1B50, 0x1BB0, 0x1C40, 0x1C50, 0xA620, 0xA8D0, 0xA900, 0xA9D0,
    0xA9F0, 0xAA50, 0xABF0, 0xFF10, 0x104A0, 0x10D30, 0x11066, 0x110F0, 0x11136, 0x111D0,
    0x112F0, 0x11450, 0x114D0, 0x11650, 0x116C0, 0x11730, 0x118E0, 0x11950, 0x11C50, 0x11D50,
    0x11DA0, 0x11F50, 0x16A60, 0x16AC0, 0x16B50, 0x1D7CE, 0x1D7D8, 0x1D7E2, 0x1D7EC, 0x1D7F6,
    0x1E140, 0x1E2F0, 0x1E4F0, 0x1E950, 0x1FBF0]

def digitValue (c : Char) : Option ℕ :=
  (decimalZeros.find? fun start => start ≤ c.toNat && c.toNat ≤ start + 9).map (c.toNat - ·)

def lower (c : Char) : Char :=
  if 'A' ≤ c && c ≤ 'Z' then Char.ofNat (c.toNat + 32) else c

-- Digits with single underscores between them, as float() and int() read them.
def digitPart : List Char → Option (Nat × Nat × List Char)
  | [] => none
  | c :: rest => (digitValue c).map fun digit => go digit 1 rest
where
  go (value count : Nat) : List Char → Nat × Nat × List Char
    | '_' :: c :: rest =>
        match digitValue c with
        | some digit => go (value * 10 + digit) (count + 1) rest
        | none => (value, count, '_' :: c :: rest)
    | c :: rest =>
        match digitValue c with
        | some digit => go (value * 10 + digit) (count + 1) rest
        | none => (value, count, c :: rest)
    | [] => (value, count, [])

def signPart : List Char → Bool × List Char
  | '-' :: rest => (true, rest)
  | '+' :: rest => (false, rest)
  | rest => (false, rest)

def exponentPart : List Char → Option (Int × List Char)
  | [] => some (0, [])
  | c :: rest =>
      if lower c = 'e' then
        (digitPart (signPart rest).2).map fun (value, _, tail) =>
          (if (signPart rest).1 then -(value : Int) else value, tail)
      else some (0, c :: rest)

def scaled (digits : Nat) (exponent : Int) : ℚ := (digits : ℚ) * (10 : ℚ) ^ exponent

-- Finite values are kept exact; only magnitudes that round past the largest double overflow.
def ofDecimal (digits : Nat) (exponent : Int) : PyFloat :=
  if (2 : ℚ) ^ 1024 - (2 : ℚ) ^ 970 ≤ scaled digits exponent then .infinite false
  else .finite (scaled digits exponent)

def mantissaPart (text : List Char) : Option (Nat × Nat × List Char) :=
  match digitPart text with
  | some (whole, _, '.' :: rest) =>
      match digitPart rest with
      | some (fraction, count, tail) => some (whole * 10 ^ count + fraction, count, tail)
      | none => some (whole, 0, rest)
  | some (whole, _, rest) => some (whole, 0, rest)
  | none =>
      match text with
      | '.' :: rest => digitPart rest
      | _ => none

def unsignedFloat (text : List Char) : Option PyFloat :=
  if text.map lower = "nan".toList then some .nan
  else if text.map lower = "inf".toList || text.map lower = "infinity".toList then
    some (.infinite false)
  else do
    let (digits, count, rest) ← mantissaPart text
    let (exponent, tail) ← exponentPart rest
    if tail.isEmpty then some (ofDecimal digits (exponent - count)) else none

def pyFloat (text : List Char) : Option PyFloat :=
  (unsignedFloat (signPart text).2).map fun x => if (signPart text).1 then x.neg else x

end Python
