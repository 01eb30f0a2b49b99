import PolicyHeader.Proofs.Text.Words

/-!
# Cutting at a separator

A text is cut at the first occurrence of the separator: the part before it holds none
(`cutText?_eq_some_iff`), and only a text without the separator stays whole (`cutText?_eq_none_iff`).
-/

namespace PolicyHeader.Text

theorem cut?_eq_none_iff {separator : Char} {cs : List Char} :
    cut? separator cs = none ↔ separator ∉ cs := by
  induction cs with
  | nil => simp [cut?]
  | cons c rest ih =>
    by_cases hc : c = separator
    · simp [cut?, hc]
    · simp [cut?, hc, ih, Ne.symm hc]

theorem cut?_eq_some_iff {separator : Char} {cs before after : List Char} :
    cut? separator cs = some (before, after) ↔
      separator ∉ before ∧ cs = before ++ separator :: after := by
  constructor
  · intro h
    refine ⟨?_, eq_of_cut?_eq_some h⟩
    induction cs generalizing before with
    | nil => cases h
    | cons c rest ih =>
      by_cases hc : c = separator
      · simp only [cut?, hc, if_true, Option.some.injEq, Prod.mk.injEq] at h
        simp [← h.1]
      · simp only [cut?, hc, if_false, Option.map_eq_some_iff, Prod.mk.injEq] at h
        obtain ⟨⟨first, second⟩, hcut, rfl, rfl⟩ := h
        simpa [Ne.symm hc] using ih hcut
  · rintro ⟨hbefore, rfl⟩
    induction before with
    | nil => simp [cut?]
    | cons c rest ih =>
      rw [List.mem_cons, not_or] at hbefore
      rw [List.cons_append, cut?, if_neg (Ne.symm hbefore.1), ih hbefore.2, Option.map_some]

theorem cutText?_eq_none_iff {separator : Char} {s : String} :
    cutText? separator s = none ↔ separator ∉ s.toList := by
  rw [cutText?, Option.map_eq_none_iff, cut?_eq_none_iff]

/-- A text is cut at the first occurrence of the separator. -/
theorem cutText?_eq_some_iff {separator : Char} {s before after : String} :
    cutText? separator s = some (before, after) ↔
      separator ∉ before.toList ∧ s.toList = before.toList ++ separator :: after.toList := by
  rw [cutText?, Option.map_eq_some_iff, ← cut?_eq_some_iff]
  constructor
  · rintro ⟨⟨first, second⟩, hcut, hparts⟩
    obtain ⟨rfl, rfl⟩ := Prod.mk.inj hparts
    rwa [String.toList_ofList, String.toList_ofList]
  · intro h
    exact ⟨_, h, by rw [String.ofList_toList, String.ofList_toList]⟩

theorem cutText?_eq_some_iff_append {separator : Char} (mark : String)
    (hmark : mark.toList = [separator]) {s before after : String} :
    cutText? separator s = some (before, after) ↔
      separator ∉ before.toList ∧ s = before ++ mark ++ after := by
  rw [cutText?_eq_some_iff, ← String.toList_inj, String.toList_append, String.toList_append, hmark,
    List.append_assoc, List.singleton_append]

/-- The parts of a text without blanks have no blanks. -/
theorem Unbroken.of_cutText? {separator : Char} {s before after : String} (hs : Unbroken s)
    (h : cutText? separator s = some (before, after)) : Unbroken before ∧ Unbroken after := by
  obtain ⟨-, hcut⟩ := cutText?_eq_some_iff.1 h
  rw [Unbroken, hcut] at hs
  exact ⟨fun c hc => hs c (List.mem_append_left _ hc),
    fun c hc => hs c (List.mem_append_right _ (List.mem_cons_of_mem _ hc))⟩

end PolicyHeader.Text
