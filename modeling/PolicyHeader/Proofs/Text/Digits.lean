/-!
# Digits of a number

A number is written with the characters of `digitChars` alone, so no blank, no colon and no brace stands among
its digits. The digits tell the number (`eq_of_toString_eq`), and in base sixteen they are read back by
`hexValue`.
-/

namespace PolicyHeader.Text

/-- The digits of base sixteen, in order. The star would stand for a digit above them. -/
def digitChars : List Char :=
  ['0', '1', '2', '3', '4', '5', '6', '7', '8', '9', 'a', 'b', 'c', 'd', 'e', 'f', '*']

theorem digitChar_mem (d : Nat) : Nat.digitChar d ∈ digitChars := by
  by_cases hd : d < 16
  · have hall : (List.range 16).all (fun d => digitChars.contains (Nat.digitChar d)) = true := by decide
    exact List.contains_iff_mem.1 (List.all_eq_true.1 hall d (List.mem_range.2 hd))
  · have hstar : Nat.digitChar d = '*' := by
      simp only [Nat.digitChar]
      repeat rw [if_neg (by omega)]
    rw [hstar]
    decide

theorem mem_digitChars_of_mem_toDigitsCore {base fuel n : Nat} {c : Char} {digits : List Char}
    (hdigits : ∀ d ∈ digits, d ∈ digitChars) (h : c ∈ Nat.toDigitsCore base fuel n digits) :
    c ∈ digitChars := by
  induction fuel generalizing n digits with
  | zero => exact hdigits c h
  | succ fuel ih =>
    have hcons : ∀ d ∈ Nat.digitChar (n % base) :: digits, d ∈ digitChars :=
      List.forall_mem_cons.2 ⟨digitChar_mem _, hdigits⟩
    rw [Nat.toDigitsCore] at h
    split at h
    · exact hcons c h
    · exact ih hcons h

/-- A number is written with digits only. -/
theorem mem_digitChars_of_mem_toDigits {base n : Nat} {c : Char} (h : c ∈ Nat.toDigits base n) :
    c ∈ digitChars :=
  mem_digitChars_of_mem_toDigitsCore (by simp) h

/-- A number is told by its digits of base ten. -/
theorem eq_of_toString_eq {m n : Nat} (h : toString m = toString n) : m = n := by
  have hread : ∀ n, Nat.ofDigitChars 10 (Nat.toDigits 10 n) 0 = n := fun n =>
    Nat.ofDigitChars_toDigits (by decide) (by decide)
  rw [Nat.toString_eq_ofList_toDigits, Nat.toString_eq_ofList_toDigits, String.ofList_inj] at h
  rw [← hread m, h, hread]

/-! ## Base sixteen -/

/-- The number that some digits of base sixteen write. -/
def hexValue (digits : List Char) : Nat :=
  digits.foldl (fun n c => 16 * n + digitChars.idxOf c) 0

theorem idxOf_digitChar {d : Nat} (h : d < 16) : digitChars.idxOf (Nat.digitChar d) = d := by
  have hall : (List.range 16).all (fun d => digitChars.idxOf (Nat.digitChar d) == d) = true := by decide
  exact beq_iff_eq.1 (List.all_eq_true.1 hall d (List.mem_range.2 h))

theorem hexValue_toDigits (n : Nat) : hexValue (Nat.toDigits 16 n) = n := by
  induction n using Nat.strongRecOn with
  | ind n ih =>
    by_cases hn : n < 16
    · rw [Nat.toDigits_of_lt_base hn, hexValue, List.foldl_cons, List.foldl_nil, idxOf_digitChar hn]
      omega
    · have hlast : digitChars.idxOf (Nat.digitChar (n % 16)) = n % 16 :=
        idxOf_digitChar (Nat.mod_lt n (by decide))
      rw [Nat.toDigits_of_base_le (by decide) (by omega), hexValue, List.foldl_append, ← hexValue,
        ih (n / 16) (by omega), List.foldl_cons, List.foldl_nil, hlast]
      omega

end PolicyHeader.Text
