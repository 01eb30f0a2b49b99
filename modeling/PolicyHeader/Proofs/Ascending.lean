/-!
# Lists that ascend by a key

Groups of kinds and labels are kept ascending by their names. Such a list has one member of each name,
and two such lists with the same members are equal. Where the keys of entries only differ from one another,
looking up a key finds the entry of that key.
-/

namespace PolicyHeader

variable {α : Type} (key : α → String) {first second : List α}

/-- A member with a lower key than the first goes in front. -/
theorem ascending_cons_cons {a b : α} {rest : List α} (hab : key a < key b)
    (h : (b :: rest).Pairwise fun a b => key a < key b) :
    (a :: b :: rest).Pairwise fun a b => key a < key b := by
  refine List.pairwise_cons.2 ⟨fun c hc => ?_, h⟩
  rcases List.mem_cons.1 hc with rfl | hc
  · exact hab
  · exact String.lt_trans hab ((List.pairwise_cons.1 h).1 c hc)

theorem lt_of_not_lt_of_ne {a b : String} (hlt : ¬ a < b) (hne : a ≠ b) : b < a :=
  Std.lt_of_le_of_ne (Std.not_lt.1 hlt) hne.symm

/-- A list that ascends by a key has one member of each key. -/
theorem eq_of_mem_ascending (h : first.Pairwise fun a b => key a < key b) {a b : α} (ha : a ∈ first)
    (hb : b ∈ first) (hkey : key a = key b) : a = b := by
  induction first with
  | nil => cases ha
  | cons c rest ih =>
    obtain ⟨hc, hrest⟩ := List.pairwise_cons.1 h
    rcases List.mem_cons.1 ha with rfl | ha' <;> rcases List.mem_cons.1 hb with rfl | hb'
    · rfl
    · exact absurd (hkey ▸ hc b hb') (String.lt_irrefl _)
    · exact absurd (hkey ▸ hc a ha') (String.lt_irrefl _)
    · exact ih hrest ha' hb'

/-- A list that ascends by a key is settled by its members. -/
theorem eq_of_ascending (hfirst : first.Pairwise fun a b => key a < key b)
    (hsecond : second.Pairwise fun a b => key a < key b) (h : ∀ a, a ∈ first ↔ a ∈ second) :
    first = second := by
  have hnodup : ∀ {l : List α}, (l.Pairwise fun a b => key a < key b) → l.Nodup := by
    intro l hl
    refine hl.imp ?_
    rintro a _ hlt rfl
    exact String.lt_irrefl _ hlt
  refine List.Perm.eq_of_pairwise ?_ hfirst hsecond
    ((List.perm_ext_iff_of_nodup (hnodup hfirst) (hnodup hsecond)).2 h)
  intro a b _ _ hab hba
  exact absurd (String.lt_trans hab hba) (String.lt_irrefl _)

/-! ## Entries with different keys -/

section entries

variable {entries others : List (String × α)}

theorem lookup_eq_some_iff_mem (h : (entries.map Prod.fst).Nodup) {name : String} {value : α} :
    entries.lookup name = some value ↔ (name, value) ∈ entries := by
  induction entries with
  | nil => simp
  | cons first rest ih =>
    obtain ⟨hfirst, hrest⟩ := List.nodup_cons.1 h
    obtain ⟨k, v⟩ := first
    rw [List.lookup_cons, List.mem_cons, Prod.mk.injEq]
    by_cases hname : name = k
    · subst hname
      have hno : (name, value) ∉ rest := fun hmem => hfirst (List.mem_map.2 ⟨_, hmem, rfl⟩)
      simp [hno, eq_comm]
    · rw [beq_eq_false_iff_ne.2 hname]
      simp [hname, ih hrest]

theorem lookup_eq_of_perm (h : (entries.map Prod.fst).Nodup) (hperm : entries.Perm others)
    (name : String) : entries.lookup name = others.lookup name := by
  have hothers : (others.map Prod.fst).Nodup := (hperm.map Prod.fst).nodup_iff.1 h
  ext value
  rw [lookup_eq_some_iff_mem h, lookup_eq_some_iff_mem hothers, hperm.mem_iff]

end entries

end PolicyHeader
