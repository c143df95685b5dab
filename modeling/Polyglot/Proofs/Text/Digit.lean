import Mathlib.Algebra.Group.Nat.Defs
import Mathlib.Data.List.Induction
import Polyglot.Number.Literal

/-!
# Decimal notation

The digits that are written for a whole number read back as that number, and a number has few
enough digits to be read exactly if it is small enough to be written.
-/
namespace Polyglot.Text

theorem digitValue?_digitChar (d : Nat) : digitValue? (digitChar d) = some (d % 10) := by
  have hall : ∀ m < 10, digitValue? (Char.ofNat (48 + m)) = some m := by decide
  exact hall (d % 10) (Nat.mod_lt _ (by decide))

theorem isDigit_digitChar (d : Nat) : isDigit (digitChar d) = true := by
  rw [isDigit, digitValue?_digitChar, Option.isSome_some]

/-- Where the digits are: those of ASCII, and others far above them. -/
theorem toNat_of_isDigit {c : Char} (h : isDigit c = true) :
    (0x30 ≤ c.toNat ∧ c.toNat < 0x3A) ∨ (0x660 ≤ c.toNat ∧ c.toNat < 0x1680) ∨
      (0x1681 ≤ c.toNat ∧ c.toNat < 0x2000) ∨ 0x3001 ≤ c.toNat := by
  -- Between the zeros of two scripts there are more than the nine other digits where blanks lie.
  have hzeros : ∀ z ∈ digitZeros, z = 0x30 ∨ (0x660 ≤ z ∧ z + 10 ≤ 0x1680) ∨
      (0x1681 ≤ z ∧ z + 10 ≤ 0x2000) ∨ 0x3001 ≤ z := by
    decide
  rw [isDigit, Option.isSome_iff_exists] at h
  obtain ⟨d, hd⟩ := h
  simp only [digitValue?] at hd
  split at hd
  · split at hd
    · omega
    · cases hd
  · obtain ⟨z, hz, -⟩ := Option.map_eq_some_iff.1 hd
    have hzero := hzeros z (List.mem_of_find?_eq_some hz)
    have hrange : z ≤ c.toNat ∧ c.toNat < z + 10 := by simpa using List.find?_some hz
    omega

/-- A digit is no blank. -/
theorem not_isBlank_of_isDigit {c : Char} (h : isDigit c = true) : isBlank c = false := by
  have hcode := toNat_of_isDigit h
  simp only [isBlank, Bool.or_eq_false_iff, Bool.and_eq_false_iff, decide_eq_false_iff_not,
    beq_eq_false_iff_ne]
  omega

/-- A digit has no lower case. -/
theorem toLower_of_isDigit {c : Char} (h : isDigit c = true) : c.toLower = c := by
  have hcode := toNat_of_isDigit h
  refine dif_neg fun hupper => ?_
  have hlow : 65 ≤ c.toNat := UInt32.le_iff_toNat_le.1 hupper.1
  have hhigh : c.toNat ≤ 90 := UInt32.le_iff_toNat_le.1 hupper.2
  omega

theorem digitValue?_getD_lt (c : Char) : (digitValue? c).getD 0 < 10 := by
  simp only [digitValue?]
  split
  · split
    · rw [Option.getD_some]
      omega
    · decide
  · cases hfind : digitZeros.find? fun z => z ≤ c.toNat && c.toNat < z + 10 with
    | none => simp
    | some z =>
      have hrange : z ≤ c.toNat ∧ c.toNat < z + 10 := by simpa using List.find?_some hfind
      rw [Option.map_some, Option.getD_some]
      omega

/-- A run of digits stands for a number with no more digits. -/
theorem digitsToNat_lt (cs : List Char) : digitsToNat cs < 10 ^ cs.length := by
  induction cs using List.reverseRecOn with
  | nil => decide
  | append_singleton cs c ih =>
    have hvalue := digitValue?_getD_lt c
    have hlast : digitsToNat (cs ++ [c]) = digitsToNat cs * 10 + (digitValue? c).getD 0 := by
      simp [digitsToNat, List.foldl_append]
    rw [hlast, List.length_append, List.length_singleton, Nat.pow_succ]
    omega

theorem not_isBlank_digitChar (d : Nat) : isBlank (digitChar d) = false :=
  not_isBlank_of_isDigit (isDigit_digitChar d)

theorem natDigits_ne_nil (n : Nat) : natDigits n ≠ [] := by
  rw [natDigits]
  split <;> simp

theorem length_padZeros (width : Nat) (cs : List Char) :
    (padZeros width cs).length = max width cs.length := by
  rw [padZeros, List.length_append, List.length_replicate]
  omega

theorem exists_of_mem_natDigits {n : Nat} {c : Char} (h : c ∈ natDigits n) :
    ∃ d, c = digitChar d := by
  fun_induction natDigits n with
  | case1 n hn => exact ⟨n, List.mem_singleton.1 h⟩
  | case2 n hn ih =>
    rcases List.mem_append.1 h with h | h
    · exact ih h
    · exact ⟨n % 10, List.mem_singleton.1 h⟩

theorem digitsToNat_append_digitChar (cs : List Char) (d : Nat) :
    digitsToNat (cs ++ [digitChar d]) = digitsToNat cs * 10 + d % 10 := by
  simp [digitsToNat, List.foldl_append, digitValue?_digitChar]

/-- Digits that were written for a number stand for it. -/
theorem digitsToNat_natDigits (n : Nat) : digitsToNat (natDigits n) = n := by
  fun_induction natDigits n with
  | case1 n hn =>
    have hone := digitsToNat_append_digitChar [] n
    rw [List.nil_append] at hone
    rw [hone, Nat.mod_eq_of_lt hn]
    simp [digitsToNat]
  | case2 n hn ih =>
    rw [digitsToNat_append_digitChar, ih]
    omega

theorem length_natDigits_le_iff {n k : Nat} (hk : 0 < k) :
    (natDigits n).length ≤ k ↔ n < 10 ^ k := by
  fun_induction natDigits n generalizing k with
  | case1 n hn =>
    have hten : 10 ^ 1 ≤ 10 ^ k := Nat.pow_le_pow_right (by decide) hk
    simp only [List.length_singleton]
    omega
  | case2 n hn ih =>
    obtain ⟨j, rfl⟩ := Nat.exists_eq_succ_of_ne_zero (Nat.pos_iff_ne_zero.1 hk)
    rw [List.length_append, List.length_singleton, Nat.succ_eq_add_one, Nat.add_le_add_iff_right]
    rcases Nat.eq_zero_or_pos j with rfl | hj
    · have hne := List.length_pos_iff.2 (natDigits_ne_nil (n / 10))
      omega
    · rw [ih hj, Nat.div_lt_iff_lt_mul (by decide), ← Nat.pow_succ]

end Polyglot.Text

namespace Polyglot.Literal

open Text

theorem isWritable_ofNat_iff {n : Nat} :
    isWritable (Int.ofNat n) = true ↔ n < 10 ^ maxIntDigits := by
  simp only [isWritable, Nat.pow_eq, decide_eq_true_eq, Int.ofNat_eq_natCast, Int.natAbs_natCast]

/-- A whole number that can be written can be read back. -/
theorem natOfDigits_natDigits {n : Nat} (h : isWritable (Int.ofNat n) = true) :
    natOfDigits (natDigits n) = .ok n := by
  have hlength := (length_natDigits_le_iff (by decide)).2 (isWritable_ofNat_iff.1 h)
  rw [natOfDigits, if_neg (Nat.not_lt.2 hlength), digitsToNat_natDigits]

/-- A whole number that is too wide to be written cannot be read either. -/
theorem natOfDigits_natDigits_eq_error {n : Nat} (h : ¬ isWritable (Int.ofNat n) = true) :
    natOfDigits (natDigits n) = .error (.tooLong (natDigits n).length) := by
  have hlength : ¬ (natDigits n).length ≤ maxIntDigits := by
    rw [length_natDigits_le_iff (by decide), ← isWritable_ofNat_iff]
    exact h
  rw [natOfDigits, if_pos (Nat.not_le.1 hlength)]

end Polyglot.Literal
