import Mathlib.Data.Int.Bitwise
import Mathlib.Tactic.Linarith
import Mathlib.Tactic.Positivity
import Mathlib.Data.List.Range

-- Flags in the bits of a word, the first in the lowest.
namespace BitWord

def word : List Bool → ℤ
  | [] => 0
  | flag :: rest => flag.toInt + 2 * word rest

def flags (width : ℕ) (raw : ℤ) : List Bool := (List.range width).map (Int.testBit raw)

variable {width : ℕ} {raw : ℤ} {bits : List Bool}

@[simp] theorem length_flags : (flags width raw).length = width := by simp [flags]

@[simp] theorem flags_zero : flags 0 raw = [] := rfl

theorem flags_bit (width : ℕ) (flag : Bool) (raw : ℤ) :
    flags (width + 1) (Int.bit flag raw) = flag :: flags width raw := by
  rw [flags, List.range_succ_eq_map, List.map_cons, List.map_map, Int.testBit_bit_zero]
  refine congrArg (flag :: ·) (List.map_congr_left fun i _ => ?_)
  exact Int.testBit_bit_succ i flag raw

theorem bit_eq (flag : Bool) (raw : ℤ) : Int.bit flag raw = flag.toInt + 2 * raw := by
  rw [Int.bit_val, add_comm]
  cases flag <;> rfl

theorem bit_emod (flag : Bool) (raw : ℤ) {m : ℤ} (hm : 0 < m) :
    (flag.toInt + 2 * raw) % (2 * m) = flag.toInt + 2 * (raw % m) := by
  have hflag : 0 ≤ flag.toInt ∧ flag.toInt ≤ 1 := by cases flag <;> decide
  have hlower := Int.emod_nonneg raw hm.ne'
  have hupper := Int.emod_lt_of_pos raw hm
  have hsplit : flag.toInt + 2 * raw = flag.toInt + 2 * (raw % m) + 2 * m * (raw / m) := by
    linarith [Int.emod_add_mul_ediv raw m]
  rw [hsplit, Int.add_mul_emod_self_left]
  exact Int.emod_eq_of_lt (by omega) (by omega)

theorem word_flags (width : ℕ) (raw : ℤ) : word (flags width raw) = raw % 2 ^ width := by
  induction width generalizing raw with
  | zero => simp [word]
  | succ width ih =>
      rw [← Int.bit_decomp raw, flags_bit, word, ih, bit_eq, pow_succ',
        bit_emod _ _ (by positivity)]

theorem flags_word (bits : List Bool) : flags bits.length (word bits) = bits := by
  induction bits with
  | nil => rfl
  | cons flag bits ih => rw [word, ← bit_eq, List.length_cons, flags_bit, ih]

theorem flags_eq_iff {raw' : ℤ} :
    flags width raw = flags width raw' ↔ raw % 2 ^ width = raw' % 2 ^ width := by
  have hflags : ∀ raw, flags width (raw % 2 ^ width) = flags width raw := by
    intro raw
    have hword := flags_word (flags width raw)
    rwa [length_flags, word_flags] at hword
  constructor
  · intro h
    rw [← word_flags, h, word_flags]
  · intro h
    rw [← hflags, h, hflags]

end BitWord
