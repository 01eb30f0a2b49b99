import PolicyHeader.Proofs.Scope.Gathering

/-!
# Which error a scope ends with

Many lines can be wrong at once, and exactly one error is told. A line of kinds without values comes
before all else; then the label lines are walked word by word, and then the lines of requirements.
Within a pass the first offence counts, so the error is settled by the lines alone
(`firstFault_decides`).
-/

namespace PolicyHeader

/-! ## The errors of each pass -/

theorem eq_of_firstFault?_kinds {lines : List String} {error : HeaderError}
    (h : firstFault? Tag.kinds Kinds.fault? lines = some error) : error = .noValues Tag.kinds := by
  obtain ⟨line, -, words, -, hfault⟩ := exists_of_firstFault? h
  rw [Kinds.fault?] at hfault
  split at hfault
  · exact (Option.some.inj hfault).symm
  · cases hfault

theorem firstFault?_kinds_eq_none_iff {lines : List String} :
    firstFault? Tag.kinds Kinds.fault? lines = none ↔
      ∀ line ∈ lines, Tag.wordsAfter? Tag.kinds line ≠ some [] := by
  rw [firstFault?_eq_none_iff]
  constructor
  · intro h line hline hwords
    exact Kinds.fault?_eq_none_iff.1 (h line hline [] hwords) rfl
  · intro h line hline words hwords
    refine Kinds.fault?_eq_none_iff.2 ?_
    rintro rfl
    exact h line hline hwords

theorem eq_of_firstFault?_labels {policy : LabelPolicy} {lines : List String} {error : HeaderError}
    (h : firstFault? Tag.labels (Labels.fault? policy) lines = some error) :
    error = .noValues Tag.labels ∨ ∃ word, error = .malformedLabel word := by
  obtain ⟨line, -, words, -, hfault⟩ := exists_of_firstFault? h
  rw [Labels.fault?] at hfault
  split at hfault
  · exact .inl (Option.some.inj hfault).symm
  · obtain ⟨word, -, rfl⟩ := Option.map_eq_some_iff.1 hfault
    exact .inr ⟨word, rfl⟩

theorem eq_of_firstFault?_requirement {lines : List String} {error : HeaderError}
    (h : firstFault? Tag.requirement Requirement.fault? lines = some error) :
    ∃ line ∈ lines, ∃ found, error = .requirementArity line found := by
  obtain ⟨line, hline, words, -, hfault⟩ := exists_of_firstFault? h
  rw [Requirement.fault?] at hfault
  split at hfault
  · cases hfault
  · exact ⟨line, hline, words.length, (Option.some.inj hfault).symm⟩

namespace Scope

/-- The four kinds of errors that a scope can end with. -/
theorem eq_of_fault? {policy : LabelPolicy} {lines : List String} {error : HeaderError}
    (h : fault? policy lines = some error) :
    error = .noValues Tag.kinds ∨ error = .noValues Tag.labels ∨
      (∃ word, error = .malformedLabel word) ∨
      ∃ line ∈ lines, ∃ found, error = .requirementArity line found := by
  rw [fault?, Option.or_eq_some_iff, Option.or_eq_some_iff] at h
  rcases h with h | ⟨-, h | ⟨-, h⟩⟩
  · exact .inl (eq_of_firstFault?_kinds h)
  · exact .inr ((eq_of_firstFault?_labels h).imp_right .inl)
  · exact .inr (.inr (.inr (eq_of_firstFault?_requirement h)))

/-- A malformed label that a scope ends with is a word of a label line, and it is malformed. -/
theorem isMalformed_of_fault? {policy : LabelPolicy} {lines : List String} {word : String}
    (h : fault? policy lines = some (.malformedLabel word)) :
    Text.IsWord word ∧ Labels.isMalformed policy word = true := by
  rw [fault?, Option.or_eq_some_iff, Option.or_eq_some_iff] at h
  rcases h with h | ⟨-, h | ⟨-, h⟩⟩
  · cases eq_of_firstFault?_kinds h
  · obtain ⟨line, -, words, hwords, hfault⟩ := exists_of_firstFault? h
    rw [Labels.fault?] at hfault
    split at hfault
    · cases hfault
    · obtain ⟨found, hfound, hsame⟩ := Option.map_eq_some_iff.1 hfault
      obtain rfl := HeaderError.malformedLabel.inj hsame
      have hmem : found ∈ words := List.mem_of_find?_eq_some hfound
      exact ⟨Tag.isWord_of_mem_wordsAfter? hwords hmem, List.find?_some hfound⟩
  · obtain ⟨_, -, _, heq⟩ := eq_of_firstFault?_requirement h
    cases heq

/-! ## The error of a scope -/

/-- **The lines settle the error.** A line of kinds without values is told of first, whatever the other
lines hold. Otherwise the first offence of a label line is: that it has no values, or its first
malformed word. Otherwise the first line is, as it is written, that gives a requirement by other than
two or three values. Otherwise there is a scope. That a line does not carry a tag is never told, and a
requirement without values is told by its number of values. -/
theorem firstFault_decides (settings : Settings) (lines : List String) :
    ((∃ line ∈ lines, Tag.wordsAfter? Tag.kinds line = some []) →
      (ofLines settings lines).result = .error (.noValues Tag.kinds)) ∧
    ((∀ line ∈ lines, Tag.wordsAfter? Tag.kinds line ≠ some []) →
      (∀ error, firstFault? Tag.labels (Labels.fault? settings.labelPolicy) lines = some error →
        (ofLines settings lines).result = .error error) ∧
      (firstFault? Tag.labels (Labels.fault? settings.labelPolicy) lines = none →
        (∀ error, firstFault? Tag.requirement Requirement.fault? lines = some error →
          (ofLines settings lines).result = .error error) ∧
        (firstFault? Tag.requirement Requirement.fault? lines = none →
          ∃ scope, (ofLines settings lines).result = .ok scope))) ∧
    (∀ tag, (ofLines settings lines).result ≠ .error (.tagMismatch tag)) ∧
    (ofLines settings lines).result ≠ .error (.noValues Tag.requirement) := by
  rw [result_ofLines]
  refine ⟨?_, ?_, ?_, ?_⟩
  · rintro ⟨line, hline, hwords⟩
    cases hkinds : firstFault? Tag.kinds Kinds.fault? lines with
    | none => exact absurd hwords (firstFault?_kinds_eq_none_iff.1 hkinds line hline)
    | some error =>
      obtain rfl := eq_of_firstFault?_kinds hkinds
      rw [fault?, hkinds]
      rfl
  · intro hkinds
    rw [fault?, firstFault?_kinds_eq_none_iff.2 hkinds, Option.none_or]
    refine ⟨fun error hlabels => ?_, fun hlabels => ?_⟩
    · rw [hlabels]
      rfl
    · rw [hlabels, Option.none_or]
      refine ⟨fun error hrequirement => ?_, fun hrequirement => ?_⟩
      · rw [hrequirement]
        rfl
      · rw [hrequirement]
        exact ⟨_, rfl⟩
  · intro tag h
    rcases eq_of_fault? (endWith_eq_error_iff.1 h) with h | h | ⟨_, h⟩ | ⟨_, -, _, h⟩ <;> cases h
  · intro h
    rcases eq_of_fault? (endWith_eq_error_iff.1 h) with h | h | ⟨_, h⟩ | ⟨_, -, _, h⟩
    · exact absurd h (by decide)
    · exact absurd h (by decide)
    · cases h
    · cases h

/-- One header for each of the four endings; each has faults of the later passes too. -/
theorem firstFault_of_many_faults :
    (ofLines .standard ["@matchExpression k", "@matchlabels =x", "@kinds"]).result =
      .error (.noValues Tag.kinds) ∧
    (ofLines .standard ["@matchExpression k", "@matchlabels a=b team =x", "@matchlabels"]).result =
      .error (.malformedLabel "team") ∧
    (ofLines ⟨.emptyValue⟩ ["@matchlabels team", " @matchExpression  a b c d", "@matchExpression"]).result =
      .error (.requirementArity " @matchExpression  a b c d" 4) ∧
    ∃ scope, (ofLines ⟨.emptyValue⟩ ["@kindsPod", "@matchlabels team", "@kinds /"]).result = .ok scope := by
  have hbare := firstFault_decides .standard ["@matchExpression k", "@matchlabels =x", "@kinds"]
  have hlabel := firstFault_decides .standard
    ["@matchExpression k", "@matchlabels a=b team =x", "@matchlabels"]
  have hrequirement := firstFault_decides ⟨.emptyValue⟩
    ["@matchlabels team", " @matchExpression  a b c d", "@matchExpression"]
  have hfine := firstFault_decides ⟨.emptyValue⟩ ["@kindsPod", "@matchlabels team", "@kinds /"]
  exact ⟨hbare.1 (by decide), (hlabel.2.1 (by decide)).1 _ (by decide),
    ((hrequirement.2.1 (by decide)).2 (by decide)).1 _ (by decide),
    ((hfine.2.1 (by decide)).2 (by decide)).2 (by decide)⟩

end Scope

end PolicyHeader
