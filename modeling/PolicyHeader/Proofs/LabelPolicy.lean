import PolicyHeader.LabelPolicy
import PolicyHeader.Proofs.Text.Lines
import PolicyHeader.Proofs.Text.Lowercase

/-!
# How label policies are spelled

A label policy is named by its word, in whatever case its letters are and whatever blanks stand around it
(`ofText?_eq_reject_iff`, `ofText?_eq_emptyValue_iff`). Only the letters of ASCII have a case here.
-/

namespace PolicyHeader.LabelPolicy

open Text (isBlank lowercase trim)

/-- A text is a word of small letters, but for blanks around it and the case of letters of ASCII. -/
def Spells (text word : String) : Prop :=
  ∃ before inner after, text.toList = before ++ inner ++ after ∧ (∀ c ∈ before, isBlank c = true) ∧
    (∀ c ∈ after, isBlank c = true) ∧ inner.map Char.toLower = word.toList

/-- The words that name a policy. -/
def spellings : List String :=
  ["reject", "empty-value", "empty_value"]

theorem not_blank_of_toLower {c : Char} (h : isBlank c.toLower = false) : isBlank c = false := by
  by_cases hascii : c.toNat < 128
  · revert h
    exact Text.forall_ascii (P := fun c => isBlank c.toLower = false → isBlank c = false)
      (by decide +kernel) hascii
  · rwa [Text.toLower_of_not_ascii (Nat.le_of_not_lt hascii)] at h

section spelling

variable {text word : String} (hword : word ∈ spellings)
include hword

theorem isPlain_and_not_blank : ∀ c ∈ word.toList, Text.IsPlain c ∧ isBlank c = false := by
  have hall : spellings.all (fun word => word.toList.all fun c =>
      decide (Text.IsPlain c) && !isBlank c) = true := by decide
  intro c hc
  simpa using List.all_eq_true.1 (List.all_eq_true.1 hall word hword) c hc

theorem spells_iff : Spells text word ↔ lowercase (trim text.toList) = word.toList := by
  have hplain : ∀ c ∈ word.toList, Text.IsPlain c := fun c hc => (isPlain_and_not_blank hword c hc).1
  rw [Text.lowercase_eq_iff hplain]
  constructor
  · rintro ⟨before, inner, after, htext, hbefore, hafter, hinner⟩
    have hblank : ∀ c ∈ inner, isBlank c = false := by
      intro c hc
      have hmem : c.toLower ∈ word.toList := hinner ▸ List.mem_map_of_mem hc
      exact not_blank_of_toLower (isPlain_and_not_blank hword _ hmem).2
    rw [htext, Text.trim_padded hbefore hafter, Text.trim_of_forall hblank, hinner]
  · intro h
    obtain ⟨before, after, htext, hbefore, hafter⟩ := Text.exists_padded_trim text.toList
    exact ⟨before, _, after, htext, hbefore, hafter, h⟩

theorem ofList_eq_iff_spells :
    String.ofList (lowercase (trim text.toList)) = word ↔ Spells text word := by
  rw [spells_iff hword, ← String.toList_inj, String.toList_ofList]

/-- No character outside ASCII becomes part of a word that names a policy. -/
theorem not_isInfix_spelling {c : Char} (hc : 128 ≤ c.toNat) :
    ¬ Text.lowercaseChar c <:+: word.toList := by
  obtain ⟨d, hd, hplain⟩ := Text.exists_not_isPlain hc
  intro hpart
  exact hplain (isPlain_and_not_blank hword d (hpart.subset hd)).1

end spelling

theorem ofText?_eq_reject_iff {text : String} :
    ofText? text = some .reject ↔ Spells text "reject" := by
  rw [← ofList_eq_iff_spells (by decide), ofText?]
  by_cases hreject : String.ofList (lowercase (trim text.toList)) = "reject"
  · simp only [hreject, if_true]
  · simp only [hreject, if_false, iff_false]
    split <;> simp

theorem ofText?_eq_emptyValue_iff {text : String} :
    ofText? text = some .emptyValue ↔ Spells text "empty-value" ∨ Spells text "empty_value" := by
  rw [← ofList_eq_iff_spells (by decide), ← ofList_eq_iff_spells (by decide), ofText?]
  by_cases hreject : String.ofList (lowercase (trim text.toList)) = "reject"
  · simp [hreject]
  · simp only [hreject, if_false]
    split <;> simp [*]

theorem ofText?_eq_none_iff {text : String} :
    ofText? text = none ↔ ∀ word ∈ spellings, ¬ Spells text word := by
  have hreject := @ofText?_eq_reject_iff text
  have hempty := @ofText?_eq_emptyValue_iff text
  simp only [spellings, List.forall_mem_cons, List.not_mem_nil, false_implies, implies_true, and_true]
  rw [← hreject, ← not_or, ← hempty]
  cases ofText? text with
  | none => simp
  | some policy => cases policy <;> simp

end PolicyHeader.LabelPolicy
