import PolicyHeader.Text.Lowercase

/-!
# Lowercase words of ASCII

In ASCII the lowercase mapping changes the letters `A` to `Z` alone. Every character outside ASCII has a
lowercase letter outside ASCII, but for the Kelvin sign, which becomes a `k`. So a word of ASCII without a `k`
is the lowercase form of those texts only that differ from it in the case of ASCII letters
(`lowercase_eq_iff`).
-/

namespace PolicyHeader.Text

/-- A character of ASCII that only characters of ASCII become. -/
def IsPlain (c : Char) : Prop :=
  c.toNat < 128 ∧ c ≠ 'k'

instance (c : Char) : Decidable (IsPlain c) :=
  inferInstanceAs (Decidable (_ ∧ _))

/-! ## One character -/

/-- What holds of every code point of ASCII holds of every character of ASCII. -/
theorem forall_ascii {P : Char → Prop} (h : ∀ n < 128, P (Char.ofNat n)) {c : Char}
    (hc : c.toNat < 128) : P c := by
  have hp := h c.toNat hc
  rwa [Char.ofNat_toNat] at hp

/-- The capitals of ASCII. -/
def latinRun : CaseRun :=
  ⟨0x41, 0x5a, 1, 0x61⟩

theorem findSome?_lower?_of_ascii {n : Nat} (h : n < 128) :
    caseRuns.findSome? (·.lower? n) = latinRun.lower? n := by
  have hsplit : caseRuns = latinRun :: caseRuns.tail := rfl
  have htail : caseRuns.tail.all (fun run => 128 ≤ run.first) = true := by decide +kernel
  have hnone : caseRuns.tail.findSome? (·.lower? n) = none := by
    refine List.findSome?_eq_none_iff.2 fun run hrun => if_neg fun hrange => ?_
    have hfirst := of_decide_eq_true (List.all_eq_true.1 htail run hrun)
    omega
  rw [hsplit, List.findSome?_cons, hnone]
  cases latinRun.lower? n <;> rfl

theorem lowercaseChar_of_ascii {c : Char} (h : c.toNat < 128) : lowercaseChar c = [c.toLower] := by
  have hne : c ≠ '\u0130' := by
    rintro rfl
    exact absurd h (by decide)
  have hlatin : (latinRun.lower? c.toNat).elim [c] (fun n => [Char.ofNat n]) = [c.toLower] :=
    forall_ascii
      (P := fun c => (latinRun.lower? c.toNat).elim [c] (fun n => [Char.ofNat n]) = [c.toLower])
      (by decide +kernel) h
  rw [← hlatin, lowercaseChar, if_neg hne, findSome?_lower?_of_ascii h]
  cases latinRun.lower? c.toNat <;> rfl

theorem toLower_of_not_ascii {c : Char} (h : 128 ≤ c.toNat) : c.toLower = c := by
  unfold Char.toLower
  refine dif_neg fun hupper => ?_
  have hlast : c.toNat ≤ 90 := UInt32.le_iff_toNat_le.1 hupper.2
  omega

/-- What the letters of a run become: the run lies in ASCII, or is the Kelvin sign, or its lowercase letters
are characters outside ASCII. -/
def CaseRun.isApart (run : CaseRun) : Bool :=
  run.last < 128 || (run.lower = 'k'.toNat && run.first = run.last) ||
    (128 ≤ run.lower && (run.lower + (run.last - run.first) < 0xd800 ||
      (0xdfff < run.lower && run.lower + (run.last - run.first) < 0x110000)))

theorem toNat_ofNat_of_valid {n : Nat} (h : n.isValidChar) : (Char.ofNat n).toNat = n := by
  have hchar : Char.ofNat n = Char.ofNatAux n h := dif_pos h
  rw [hchar]
  rfl

theorem CaseRun.not_isPlain_of_lower? {run : CaseRun} (hrun : run.isApart = true) {n lower : Nat}
    (hn : 128 ≤ n) (h : run.lower? n = some lower) : ¬ IsPlain (Char.ofNat lower) := by
  unfold lower? at h
  split at h
  · next hrange =>
    obtain rfl := Option.some.inj h
    simp only [isApart, Bool.or_eq_true, Bool.and_eq_true, decide_eq_true_eq] at hrun
    rcases hrun with (hascii | ⟨hk, hone⟩) | ⟨hwide, hvalid⟩
    · omega
    · have hlower : run.lower + (n - run.first) = 'k'.toNat := by omega
      rw [hlower]
      decide
    · intro hplain
      have hchar := toNat_ofNat_of_valid (n := run.lower + (n - run.first)) (by
        unfold Nat.isValidChar
        omega)
      have hlt := hplain.1
      rw [hchar] at hlt
      omega
  · cases h

/-- A character outside ASCII has a lowercase letter that is not plain. -/
theorem exists_not_isPlain {c : Char} (h : 128 ≤ c.toNat) : ∃ d ∈ lowercaseChar c, ¬ IsPlain d := by
  unfold lowercaseChar
  split
  · exact ⟨'\u0307', by simp, by decide⟩
  · cases hlower : caseRuns.findSome? (·.lower? c.toNat) with
    | none => exact ⟨c, by simp, fun hplain => absurd hplain.1 (Nat.not_lt.2 h)⟩
    | some n =>
      have hall : caseRuns.all CaseRun.isApart = true := by decide +kernel
      obtain ⟨run, hrun, hn⟩ := List.exists_of_findSome?_eq_some hlower
      refine ⟨Char.ofNat n, by simp, ?_⟩
      exact run.not_isPlain_of_lower? (List.all_eq_true.1 hall run hrun) h hn

/-! ## Words -/

theorem lowercase_of_ascii {cs : List Char} (h : ∀ c ∈ cs, c.toNat < 128) :
    lowercase cs = cs.map Char.toLower := by
  induction cs with
  | nil => rfl
  | cons c rest ih =>
    obtain ⟨hc, hrest⟩ := List.forall_mem_cons.1 h
    rw [lowercase, List.flatMap_cons, lowercaseChar_of_ascii hc, ← lowercase, ih hrest]
    rfl

section word

variable {cs word : List Char} (hword : ∀ d ∈ word, IsPlain d)
include hword

theorem ascii_of_lowercase_eq (h : lowercase cs = word) : ∀ c ∈ cs, c.toNat < 128 := by
  intro c hc
  refine Nat.lt_of_not_le fun hwide => ?_
  obtain ⟨d, hd, hplain⟩ := exists_not_isPlain hwide
  have hmem : d ∈ lowercase cs := List.mem_flatMap.2 ⟨c, hc, hd⟩
  rw [h] at hmem
  exact hplain (hword d hmem)

theorem ascii_of_map_toLower_eq (h : cs.map Char.toLower = word) : ∀ c ∈ cs, c.toNat < 128 := by
  intro c hc
  refine Nat.lt_of_not_le fun hwide => ?_
  have hmem : c.toLower ∈ word := h ▸ List.mem_map_of_mem hc
  rw [toLower_of_not_ascii hwide] at hmem
  exact absurd (hword c hmem).1 (Nat.not_lt.2 hwide)

theorem lowercase_eq_iff : lowercase cs = word ↔ cs.map Char.toLower = word := by
  constructor
  · intro h
    rwa [← lowercase_of_ascii (ascii_of_lowercase_eq hword h)]
  · intro h
    rwa [lowercase_of_ascii (ascii_of_map_toLower_eq hword h)]

end word

end PolicyHeader.Text
