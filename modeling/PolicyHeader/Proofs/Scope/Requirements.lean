import Mathlib.Data.List.Forall2
import PolicyHeader.Proofs.Scope.Canonical
import PolicyHeader.Proofs.Scope.Families

/-!
# Requirements line by line

The requirements of a scope stand in the order of their lines, one for each line. `Requirement.SaidBy`
tells what the words of a line say without cutting anything: the text of the requirement is these words,
and no value holds a comma. That leaves one requirement for each two or three words (`saidBy_iff`), so the
values are told apart from a missing word, and from the values of every other word.
-/

namespace PolicyHeader.Requirement

/-- What two or three words say. The first two are the key and the operator, the values are missing
exactly if the third word is, and the text of the requirement is the words again. -/
structure SaidBy (words : List String) (requirement : Requirement) : Prop where
  take_two : words.take 2 = [requirement.key, requirement.operator]
  length_le : words.length ≤ 3
  values_eq_nil_iff : requirement.values = [] ↔ words.length = 2
  text_eq : requirement.text = " ".intercalate words
  comma_not_mem : ∀ value ∈ requirement.values, ',' ∉ value.toList

/-- A line says a requirement by the words after its tag. -/
def OnLine (line : String) (requirement : Requirement) : Prop :=
  ∃ words, Text.wordsOf line = Tag.requirement :: words ∧ SaidBy words requirement

/-! ## Values of a word -/

theorem valuesOfWord_ne_nil (word : String) : valuesOfWord word ≠ [] := by
  simp [valuesOfWord, List.splitOn_ne_nil]

theorem valuesOfWord_injective : Function.Injective valuesOfWord := by
  intro word other h
  rw [← intercalate_valuesOfWord word, h, intercalate_valuesOfWord]

/-- The text of a requirement with values tells the values, joined with commas. -/
theorem intercalate_values_of_text_eq {requirement : Requirement} {word : String}
    (hne : requirement.values ≠ [])
    (h : requirement.text = " ".intercalate [requirement.key, requirement.operator, word]) :
    ",".intercalate requirement.values = word := by
  have hwords : requirement.words =
      [requirement.key, requirement.operator, ",".intercalate requirement.values] := by
    simp [words, hne]
  rw [text_eq_intercalate, hwords] at h
  simpa [String.intercalate_cons_cons] using h

/-! ## What words say -/

theorem ofWords?_of_saidBy {ws : List String} {requirement : Requirement}
    (h : SaidBy ws requirement) : ofWords? ws = some requirement := by
  obtain ⟨htake, hlength, hvalues, htext, hcomma⟩ := h
  obtain ⟨key, operator, values⟩ := requirement
  rcases ws with _ | ⟨first, _ | ⟨second, rest⟩⟩
  · simp at htake
  · simp at htake
  · obtain ⟨rfl, rfl⟩ : first = key ∧ second = operator := by simpa using htake
    rcases rest with _ | ⟨third, _ | ⟨_, _⟩⟩
    · have hnil : values = [] := hvalues.2 rfl
      rw [ofWords?, hnil]
    · have hne : values ≠ [] := fun hnil => absurd (hvalues.1 hnil) (by simp)
      have hjoined : ",".intercalate values = third := intercalate_values_of_text_eq hne htext
      rw [ofWords?, ← hjoined, valuesOfWord_intercalate hne hcomma]
    · simp only [List.length_cons] at hlength
      omega

theorem saidBy_of_ofWords? {ws : List String} {requirement : Requirement}
    (h : ofWords? ws = some requirement) : SaidBy ws requirement := by
  unfold ofWords? at h
  split at h
  · next key operator =>
    obtain rfl := Option.some.inj h
    exact ⟨rfl, by simp, by simp, by simp [text_eq_intercalate, words], by simp⟩
  · next key operator third =>
    obtain rfl := Option.some.inj h
    have hne := valuesOfWord_ne_nil third
    refine ⟨rfl, by simp, by simp [hne], ?_, comma_not_mem_valuesOfWord third⟩
    simp [text_eq_intercalate, words, hne, intercalate_valuesOfWord]
  · cases h

/-- Words are read as the one requirement that they say. -/
theorem saidBy_iff {ws : List String} {requirement : Requirement} :
    SaidBy ws requirement ↔ ofWords? ws = some requirement :=
  ⟨ofWords?_of_saidBy, saidBy_of_ofWords?⟩

/-! ## One requirement for each line -/

/-- The requirement on a line, if it carries the tag and has two or three words after it. -/
def ofLine? (line : String) : Option Requirement :=
  (Tag.wordsAfter? Tag.requirement line).bind ofWords?

theorem onLine_iff {line : String} {requirement : Requirement} :
    OnLine line requirement ↔ ofLine? line = some requirement := by
  simp only [OnLine, ofLine?, Option.bind_eq_some_iff, Tag.wordsAfter?_eq_some_iff, saidBy_iff]

theorem firstFault?_eq_none_iff_ofLine? {lines : List String} :
    firstFault? Tag.requirement fault? lines = none ↔
      ∀ line ∈ Tag.linesOf Tag.requirement lines, (ofLine? line).isSome := by
  rw [firstFault?_eq_none_iff]
  simp only [fault?_eq_none_iff, Tag.linesOf, List.mem_filter, Tag.carries_eq_isSome, ofLine?]
  constructor
  · rintro h line ⟨hline, hcarries⟩
    obtain ⟨words, hwords⟩ := Option.isSome_iff_exists.1 hcarries
    simpa [hwords] using h line hline words hwords
  · intro h line hline words hwords
    rw [Option.mem_def] at hwords
    simpa [hwords] using h line ⟨hline, by simp [hwords]⟩

theorem gather_requirements_eq (lines : List String) :
    (Scope.gather lines).requirements = (Tag.linesOf Tag.requirement lines).filterMap ofLine? := by
  have hother : ∀ line, Tag.carries Tag.requirement line = false → ofLine? line = none := by
    intro line hline
    rw [ofLine?, Tag.wordsAfter?_eq_none_iff.2 hline, Option.bind_none]
  have hgather : (Scope.gather lines).requirements =
      (lines.filterMap (Tag.wordsAfter? Tag.requirement)).filterMap ofWords? := rfl
  rw [Tag.filterMap_linesOf hother, hgather, List.filterMap_filterMap]
  rfl

/-- Where each element gives something, what they give stands in their order. -/
theorem forall₂_iff_filterMap {α β : Type} {f : α → Option β} {xs : List α} {ys : List β} :
    List.Forall₂ (fun x y => f x = some y) xs ys ↔
      (∀ x ∈ xs, (f x).isSome) ∧ xs.filterMap f = ys := by
  induction xs generalizing ys with
  | nil => cases ys <;> simp
  | cons x rest ih =>
    cases ys with
    | nil => cases hx : f x <;> simp [hx]
    | cons y ys => cases hx : f x <;> simp [hx, ih, and_left_comm]

/-- **Each line of the family gives its requirement**, and the pass ends with the requirements in the order
of the lines. Cutting a third word at its commas and joining the pieces gives the word again, so two
different words never give the same values. -/
theorem result_read_onLine :
    (∀ (lines : List String) (requirements : List Requirement),
      (family.read lines).result = .ok requirements ↔
        List.Forall₂ OnLine (Tag.linesOf Tag.requirement lines) requirements) ∧
    (∀ (key operator third : String) (requirement : Requirement),
      SaidBy [key, operator, third] requirement →
        requirement.values = valuesOfWord third ∧ ",".intercalate requirement.values = third) ∧
    (∀ word : String, ",".intercalate (valuesOfWord word) = word) ∧
    Function.Injective valuesOfWord := by
  refine ⟨fun lines requirements => ?_, fun key operator third requirement h => ?_,
    intercalate_valuesOfWord, valuesOfWord_injective⟩
  · have honLine : OnLine = fun line requirement => ofLine? line = some requirement := by
      ext line requirement
      exact onLine_iff
    rw [Scope.result_read_requirements, endWith_eq_ok_iff, firstFault?_eq_none_iff_ofLine?,
      gather_requirements_eq, honLine, forall₂_iff_filterMap]
  · obtain rfl := Option.some.inj (saidBy_iff.1 h)
    exact ⟨rfl, intercalate_valuesOfWord third⟩

/-- Empty pieces between commas are kept, and a comma alone differs from no third word. -/
theorem result_read_onLine_of_commas :
    (family.read ["@kinds Pod", " @matchExpression k In ,a,,", "@matchExpression k Exists",
      "@matchExpression k In ,"]).result =
        .ok [⟨"k", "In", ["", "a", "", ""]⟩, ⟨"k", "Exists", []⟩, ⟨"k", "In", ["", ""]⟩] ∧
    List.Forall₂ OnLine
      [" @matchExpression k In ,a,,", "@matchExpression k Exists", "@matchExpression k In ,"]
      [⟨"k", "In", ["", "a", "", ""]⟩, ⟨"k", "Exists", []⟩, ⟨"k", "In", ["", ""]⟩] ∧
    SaidBy ["k", "In", ",a,,"] ⟨"k", "In", ["", "a", "", ""]⟩ ∧
    valuesOfWord ",a,," = ["", "a", "", ""] := by
  have hread : (family.read ["@kinds Pod", " @matchExpression k In ,a,,", "@matchExpression k Exists",
      "@matchExpression k In ,"]).result =
        .ok [⟨"k", "In", ["", "a", "", ""]⟩, ⟨"k", "Exists", []⟩, ⟨"k", "In", ["", ""]⟩] := rfl
  obtain ⟨hlines, hvalues, -, -⟩ := result_read_onLine
  have hsaid : SaidBy ["k", "In", ",a,,"] ⟨"k", "In", ["", "a", "", ""]⟩ := saidBy_iff.2 rfl
  exact ⟨hread, (hlines _ _).1 hread, hsaid, (hvalues _ _ _ _ hsaid).1.symm⟩

end PolicyHeader.Requirement
