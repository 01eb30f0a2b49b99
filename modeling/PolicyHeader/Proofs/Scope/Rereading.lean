import PolicyHeader.Proofs.Scope.Canonical

/-!
# Writing a scope and reading it again

A scope that is written as header lines is read back as it was exactly if it is canonical, under each
label policy. Whatever is read off some lines is canonical, so it can be written and read again without
end.
-/

namespace PolicyHeader

open Text (IsWord Unbroken wordsOf)

/-! ## The words on the lines of a scope -/

theorem taggedWords_lines {tag : String} (htag : IsWord tag) (texts : List String) :
    taggedWords tag (texts.map (tag ++ " " ++ ·)) = texts.map wordsOf := by
  rw [taggedWords, List.filterMap_map, ← List.filterMap_eq_map]
  refine List.filterMap_congr fun text _ => ?_
  exact (Tag.wordsAfter?_line htag text).trans (if_pos rfl)

theorem taggedWords_other_lines {tag other : String} (hother : IsWord other) (hne : other ≠ tag)
    (texts : List String) : taggedWords tag (texts.map (other ++ " " ++ ·)) = [] := by
  rw [taggedWords, List.filterMap_map, List.filterMap_eq_nil_iff]
  intro text _
  exact (Tag.wordsAfter?_line hother text).trans (if_neg hne)

theorem Kinds.wordsOf_text {kinds : Kinds}
    (h : ∀ resource ∈ kinds.resources, Unbroken resource.group ∧ Unbroken resource.kind) :
    wordsOf kinds.text = kinds.resources.map ResourceKind.text := by
  refine Text.wordsOf_intercalate fun w hw => ?_
  obtain ⟨resource, hresource, rfl⟩ := List.mem_map.1 hw
  exact ResourceKind.isWord_text (h resource hresource).1 (h resource hresource).2

theorem Kinds.Canonical.wordsOf_text {kinds : Kinds} (h : kinds.Canonical) :
    wordsOf kinds.text = kinds.resources.map ResourceKind.text := by
  refine Kinds.wordsOf_text fun resource hresource => ?_
  have hspelled := (canonical_iff.1 h).2 resource hresource
  exact ⟨hspelled.unbroken_group, hspelled.unbroken_kind⟩

theorem Labels.wordsOf_text {labels : Labels} (h : labels.Canonical) :
    wordsOf labels.text = labels.entries.map Labels.entryText := by
  refine Text.wordsOf_intercalate fun w hw => ?_
  obtain ⟨entry, hentry, rfl⟩ := List.mem_map.1 hw
  exact (h entry hentry).isWord_entryText

theorem Requirement.wordsOf_text {requirement : Requirement} (h : requirement.Canonical) :
    wordsOf requirement.text = requirement.words := by
  rw [Requirement.text_eq_intercalate]
  exact Text.wordsOf_intercalate (Requirement.isWord_of_mem_words h)

namespace Scope

theorem headerLines_eq (scope : Scope) :
    scope.headerLines =
      (if scope.kinds.isEmpty then [] else [scope.kinds.text]).map (Tag.kinds ++ " " ++ ·) ++
        (if scope.labels.isEmpty then [] else [scope.labels.text]).map (Tag.labels ++ " " ++ ·) ++
        (scope.requirements.map Requirement.text).map (Tag.requirement ++ " " ++ ·) := by
  rw [headerLines, List.map_map]
  congr 2 <;> split <;> rfl

/-- Each family finds its own lines among the lines of a scope. -/
theorem taggedWords_headerLines (scope : Scope) :
    taggedWords Tag.kinds scope.headerLines =
        (if scope.kinds.isEmpty then [] else [wordsOf scope.kinds.text]) ∧
      taggedWords Tag.labels scope.headerLines =
        (if scope.labels.isEmpty then [] else [wordsOf scope.labels.text]) ∧
      taggedWords Tag.requirement scope.headerLines =
        scope.requirements.map fun requirement => wordsOf requirement.text := by
  have hkinds := fun tag (hne : Tag.kinds ≠ tag) => taggedWords_other_lines Tag.isWord_kinds hne
  have hlabels := fun tag (hne : Tag.labels ≠ tag) => taggedWords_other_lines Tag.isWord_labels hne
  have hrequirement := fun tag (hne : Tag.requirement ≠ tag) =>
    taggedWords_other_lines Tag.isWord_requirement hne
  rw [headerLines_eq]
  simp only [taggedWords_append]
  rw [taggedWords_lines Tag.isWord_kinds, hlabels _ (by decide), hrequirement _ (by decide),
    hkinds _ (by decide), taggedWords_lines Tag.isWord_labels, hrequirement _ (by decide),
    hkinds _ (by decide), hlabels _ (by decide), taggedWords_lines Tag.isWord_requirement,
    List.map_map]
  refine ⟨?_, ?_, rfl⟩
  · split <;> rfl
  · split <;> rfl

/-! ## Reading the lines -/

section Canonical

variable {scope : Scope} (h : scope.Canonical)
include h

theorem kinds_words_ne_nil (hne : scope.kinds.isEmpty = false) : wordsOf scope.kinds.text ≠ [] := by
  rw [h.kinds.wordsOf_text]
  obtain ⟨entry, hentry⟩ := List.exists_mem_of_ne_nil scope.kinds (by simpa using hne)
  obtain ⟨kind, hkind⟩ := List.exists_mem_of_ne_nil _ (h.kinds.entries entry hentry).ne_nil
  have hresource : ⟨entry.group, kind⟩ ∈ scope.kinds.resources :=
    Kinds.mem_resources.2 ⟨entry, hentry, rfl, hkind⟩
  exact List.ne_nil_of_mem (List.mem_map_of_mem hresource)

/-- No line of a canonical scope is at fault. -/
theorem fault?_headerLines (policy : LabelPolicy) : fault? policy scope.headerLines = none := by
  obtain ⟨hkinds, hlabels, hrequirements⟩ := taggedWords_headerLines scope
  rw [fault?, Option.or_eq_none_iff, Option.or_eq_none_iff]
  refine ⟨firstFault?_eq_none fun line words hwords => ?_,
    firstFault?_eq_none fun line words hwords => ?_, firstFault?_eq_none fun line words hwords => ?_⟩
  · rw [hkinds] at hwords
    split at hwords
    · cases hwords
    · next hne =>
      obtain rfl := List.mem_singleton.1 hwords
      exact Kinds.fault?_eq_none_iff.2 (kinds_words_ne_nil h (by simpa using hne))
  · rw [hlabels] at hwords
    split at hwords
    · cases hwords
    · next hne =>
      obtain rfl := List.mem_singleton.1 hwords
      rw [Labels.wordsOf_text h.labels, Labels.fault?_eq_none_iff]
      refine ⟨by simpa [Labels.isEmpty] using hne, fun w hw => ?_⟩
      obtain ⟨entry, hentry, rfl⟩ := List.mem_map.1 hw
      exact (h.labels entry hentry).isMalformed_entryText policy
  · rw [hrequirements] at hwords
    obtain ⟨requirement, hmem, rfl⟩ := List.mem_map.1 hwords
    have hcanonical := h.requirements requirement hmem
    rw [Requirement.wordsOf_text hcanonical, Requirement.fault?_eq_none_iff,
      Requirement.ofWords?_words hcanonical]
    rfl

/-- The lines of a canonical scope come to the scope. -/
theorem gather_headerLines : gather scope.headerLines = scope := by
  obtain ⟨hkinds, hlabels, hrequirements⟩ := taggedWords_headerLines scope
  ext1
  · rw [gather, hkinds, h.kinds.wordsOf_text]
    split
    · next hempty =>
      rw [List.isEmpty_iff.1 hempty]
      rfl
    · rw [List.flatten_singleton, Kinds.insertWords_text h.kinds]
  · rw [gather, hlabels, Labels.wordsOf_text h.labels]
    split
    · next hempty =>
      rw [← Labels.insertAll_entries scope.labels, List.isEmpty_iff.1 hempty]
      rfl
    · rw [List.flatten_singleton, Labels.insertAll_entryText h.labels]
  · rw [gather, hrequirements, List.filterMap_map]
    refine (List.filterMap_congr (g := some) fun requirement hmem => ?_).trans List.filterMap_some
    have hcanonical := h.requirements requirement hmem
    exact (congrArg _ (Requirement.wordsOf_text hcanonical)).trans
      (Requirement.ofWords?_words hcanonical)

end Canonical

/-- **A scope is read back from its own lines exactly if it is canonical**, under each label policy.
What is read off any lines is canonical, so reading its lines gives it again. -/
theorem result_ofLines_headerLines (settings : Settings) :
    (∀ scope : Scope,
      (ofLines settings scope.headerLines).result = .ok scope ↔ scope.Canonical) ∧
    ∀ (other : Settings) (lines : List String) (scope : Scope),
      (ofLines other lines).result = .ok scope →
        scope.Canonical ∧ (ofLines settings scope.headerLines).result = .ok scope := by
  have hcanonical : ∀ (other : Settings) (lines : List String) (scope : Scope),
      (ofLines other lines).result = .ok scope → scope.Canonical := by
    intro other lines scope h
    rw [result_ofLines, endWith_eq_ok_iff] at h
    obtain ⟨hfault, rfl⟩ := h
    exact gather_canonical hfault
  have hreread : ∀ scope : Scope, scope.Canonical →
      (ofLines settings scope.headerLines).result = .ok scope := by
    intro scope h
    rw [result_ofLines, fault?_headerLines h, gather_headerLines h, endWith_none]
  refine ⟨fun scope => ⟨hcanonical settings scope.headerLines scope, hreread scope⟩, ?_⟩
  intro other lines scope h
  exact ⟨hcanonical other lines scope h, hreread scope (hcanonical other lines scope h)⟩

/-- A scope with an empty kind, an empty label value, and empty values of a requirement. -/
def withEmptyNames : Scope where
  kinds := [⟨"", ["", "Pod"]⟩, ⟨"apps", ["Deployment"]⟩]
  labels := ⟨[("q", "a=b"), ("team", "")], by decide⟩
  requirements := [⟨"k", "In", ["", "a", ""]⟩]

theorem reread_withEmptyNames :
    (ofLines ⟨.emptyValue⟩ ["@kinds Pod apps/Deployment core/", "@matchlabels team q=a=b",
      "@matchExpression k In ,a,"]).result = .ok withEmptyNames ∧
    (ofLines .standard withEmptyNames.headerLines).result = .ok withEmptyNames := by
  have hread : (ofLines ⟨.emptyValue⟩ ["@kinds Pod apps/Deployment core/",
      "@matchlabels team q=a=b", "@matchExpression k In ,a,"]).result = .ok withEmptyNames := rfl
  exact ⟨hread, ((result_ofLines_headerLines .standard).2 ⟨.emptyValue⟩ _ withEmptyNames hread).2⟩

end Scope

end PolicyHeader
