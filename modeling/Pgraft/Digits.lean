import Pgraft.Apply
import Mathlib.Tactic.IntervalCases
import Mathlib.Data.Nat.Digits

/-!
# Decimal numerals, printed and read back

`snprintf`'s `%lu` and `%d` and json-c's integers print with `Nat.toDigits 10`; `strtoull`,
`atoi` and the JSON reader read digits back with `Json.parseDigits`. Everything here follows
from one equation: reading a numeral's digits leaves the reader holding the number, whatever
text follows it.
-/

namespace Pgraft

/-! ## The printer -/

theorem toDigitsCore_append (b f n : Nat) (ds : List Char) :
    Nat.toDigitsCore b f n ds = Nat.toDigitsCore b f n [] ++ ds := by
  induction f generalizing n ds with
  | zero => rfl
  | succ f ih =>
    simp only [Nat.toDigitsCore]
    split
    · rfl
    · rw [ih _ (_ :: ds), ih _ [_], List.append_assoc, List.singleton_append]

theorem digitChar_isDigit {d : Nat} (h : d < 10) :
    (Nat.digitChar d).isDigit = true ∧ (Nat.digitChar d).toNat - 48 = d := by
  interval_cases d <;> exact ⟨rfl, rfl⟩

theorem digitChar_of_mem_toDigitsCore : ∀ {f n : Nat} {c : Char},
    c ∈ Nat.toDigitsCore 10 f n [] → ∃ d < 10, c = Nat.digitChar d
  | 0, _, _, h => nomatch h
  | f + 1, n, c, h => by
    have hd : n % 10 < 10 := Nat.mod_lt n (by decide)
    simp only [Nat.toDigitsCore] at h
    split at h
    · exact ⟨_, hd, List.mem_singleton.mp h⟩
    · rw [toDigitsCore_append, List.mem_append, List.mem_singleton] at h
      rcases h with h | rfl
      · exact digitChar_of_mem_toDigitsCore h
      · exact ⟨_, hd, rfl⟩

/-- Reading the digits of `n` continues with the accumulator at `n`. -/
theorem parseDigits_toDigitsCore : ∀ {f n : Nat} (rest : List Char), n < f →
    Json.parseDigits 0 (Nat.toDigitsCore 10 f n [] ++ rest) = Json.parseDigits n rest
  | 0, _, _, h => absurd h (Nat.not_lt_zero _)
  | f + 1, n, rest, h => by
    have hd := digitChar_isDigit (Nat.mod_lt n (by decide : 10 > 0))
    simp only [Nat.toDigitsCore]
    split
    · next h0 =>
      simp only [List.singleton_append, Json.parseDigits, hd.1, if_true, hd.2]
      congr 1; omega
    · next h0 =>
      rw [toDigitsCore_append, List.append_assoc, parseDigits_toDigitsCore _ (by omega)]
      simp only [List.singleton_append, Json.parseDigits, hd.1, if_true, hd.2]
      congr 1; omega

theorem parseDigits_stop (acc : Nat) {rest : List Char} (h : ∀ c ∈ rest.head?, c.isDigit = false) :
    Json.parseDigits acc rest = (acc, rest) := by
  cases rest with
  | nil => rfl
  | cons c cs => simp [Json.parseDigits, h c rfl]

/-! ## Numerals as text -/

section Numerals
variable (n : Nat)

theorem data_toString_nat : (toString n).data = Nat.toDigitsCore 10 (n + 1) n [] := rfl

theorem parseDigits_toString (rest : List Char) :
    Json.parseDigits 0 ((toString n).data ++ rest) = Json.parseDigits n rest := by
  rw [data_toString_nat]; exact parseDigits_toDigitsCore rest (Nat.lt_succ_self n)

theorem digitChar_of_mem_toString {n : Nat} {c : Char} (h : c ∈ (toString n).data) :
    ∃ d < 10, c = Nat.digitChar d :=
  digitChar_of_mem_toDigitsCore (by rwa [data_toString_nat] at h)

theorem isDigit_of_mem_toString {n : Nat} {c : Char} (h : c ∈ (toString n).data) :
    c.isDigit = true := by
  obtain ⟨d, hd, rfl⟩ := digitChar_of_mem_toString h
  exact (digitChar_isDigit hd).1

theorem toString_nat_cons : ∃ c cs, (toString n).data = c :: cs := by
  rw [data_toString_nat]
  simp only [Nat.toDigitsCore]
  split
  · exact ⟨_, _, rfl⟩
  · rw [toDigitsCore_append]
    cases Nat.toDigitsCore 10 n (n / 10) [] <;> exact ⟨_, _, rfl⟩

end Numerals

theorem ne_of_isDigit {c d : Char} (hc : c.isDigit = true) (hd : d.isDigit = false) : c ≠ d := by
  rintro rfl; rw [hc] at hd; exact Bool.noConfusion hd

/-- `strtoull` and `atoi` skip no blank and see no sign before a digit. -/
theorem leadingDigits_digitChar {d : Nat} (hd : d < 10) (cs : List Char) :
    leadingDigits (Nat.digitChar d :: cs) = (false, (Json.parseDigits 0 (Nat.digitChar d :: cs)).1) := by
  interval_cases d <;> rfl

theorem leadingDigits_toString (n : Nat) : leadingDigits (toString n).data = (false, n) := by
  obtain ⟨c, cs, h⟩ := toString_nat_cons n
  obtain ⟨d, hd, rfl⟩ := digitChar_of_mem_toString (h ▸ List.mem_cons_self c cs)
  have hread : Json.parseDigits 0 (toString n).data = (n, []) := by
    simpa using parseDigits_toString n []
  rw [h, leadingDigits_digitChar hd, ← h, hread]

theorem strtoull_toString {n : Nat} (h : n < 2 ^ 64) : strtoull (toString n) = n := by
  simp only [strtoull, leadingDigits_toString, if_neg (Nat.not_le.mpr h), Bool.false_eq_true,
    if_false]

theorem atoi_toString (i : Int) : atoi (toString i) = i := by
  cases i with
  | ofNat m =>
    have h : toString (m : Int) = toString m := rfl
    simp [atoi, h, leadingDigits_toString]
  | negSucc m =>
    have h : (toString (Int.negSucc m)).data = '-' :: (toString (m + 1)).data := rfl
    have hread : Json.parseDigits 0 (toString (m + 1)).data = (m + 1, []) := by
      simpa using parseDigits_toString (m + 1) []
    simp [atoi, leadingDigits, h, hread]
    rw [Int.negSucc_eq]; omega

end Pgraft
