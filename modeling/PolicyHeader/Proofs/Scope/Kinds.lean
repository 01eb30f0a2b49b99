import PolicyHeader.Proofs.Ascending
import PolicyHeader.Scope.Kinds

/-!
# Ordered kinds

Gathered kinds are ordered: the groups ascend, and each group has kinds, which ascend too. Two ordered
gatherings of the same resource kinds are equal (`Ordered.ext`), so gathering resource kinds in any
order and any number of times comes to one value (`ofResources`).
-/

namespace PolicyHeader

/-! ## Ordered kinds -/

/-- The kinds of a group ascend, and there are some. -/
structure GroupKinds.Ordered (entry : GroupKinds) : Prop where
  ne_nil : entry.kinds ≠ []
  ascending : entry.kinds.Pairwise (· < ·)

namespace Kinds

/-- The groups ascend, and so do the kinds of each. -/
structure Ordered (kinds : Kinds) : Prop where
  ascending : kinds.Pairwise fun first second => first.group < second.group
  entries : ∀ entry ∈ kinds, entry.Ordered

theorem mem_resources {resource : ResourceKind} {kinds : Kinds} :
    resource ∈ kinds.resources ↔ ∃ entry ∈ kinds, entry.group = resource.group ∧
      resource.kind ∈ entry.kinds := by
  simp only [resources, GroupKinds.resources, List.mem_flatMap, List.mem_map]
  constructor
  · rintro ⟨entry, hentry, kind, hkind, rfl⟩
    exact ⟨entry, hentry, rfl, hkind⟩
  · rintro ⟨entry, hentry, hgroup, hkind⟩
    exact ⟨entry, hentry, resource.kind, hkind, by rw [hgroup]⟩

theorem Ordered.tail {entry : GroupKinds} {rest : Kinds} (h : Ordered (entry :: rest)) :
    Ordered rest :=
  ⟨(List.pairwise_cons.1 h.ascending).2, fun e he => h.entries e (List.mem_cons_of_mem _ he)⟩

/-- In ordered kinds an entry holds all kinds of its group. -/
theorem Ordered.mem_kinds_iff {kinds : Kinds} (h : Ordered kinds) {entry : GroupKinds}
    (hentry : entry ∈ kinds) (kind : String) :
    kind ∈ entry.kinds ↔ ⟨entry.group, kind⟩ ∈ kinds.resources := by
  rw [mem_resources]
  constructor
  · intro hkind
    exact ⟨entry, hentry, rfl, hkind⟩
  · rintro ⟨other, hother, hgroup, hkind⟩
    rwa [eq_of_mem_ascending GroupKinds.group h.ascending hentry hother hgroup.symm]

/-- Ordered kinds are settled by their resource kinds. -/
theorem Ordered.ext {first second : Kinds} (hfirst : Ordered first) (hsecond : Ordered second)
    (h : ∀ resource, resource ∈ first.resources ↔ resource ∈ second.resources) : first = second := by
  have hsub : ∀ {a b : Kinds}, Ordered a → Ordered b →
      (∀ resource, resource ∈ a.resources ↔ resource ∈ b.resources) → ∀ entry ∈ a, entry ∈ b := by
    intro a b ha hb hab entry hentry
    obtain ⟨kind, hkind⟩ := List.exists_mem_of_ne_nil _ (ha.entries entry hentry).ne_nil
    have hmem := (hab ⟨entry.group, kind⟩).1 ((ha.mem_kinds_iff hentry kind).1 hkind)
    obtain ⟨other, hother, hgroup, -⟩ := mem_resources.1 hmem
    -- the two entries of the group hold the same kinds, and both ascend
    have hkinds : entry.kinds = other.kinds := by
      refine eq_of_ascending id (ha.entries entry hentry).ascending
        (hb.entries other hother).ascending fun name => ?_
      rw [ha.mem_kinds_iff hentry, hb.mem_kinds_iff hother, hab, hgroup]
    have heq : entry = other := by
      cases entry
      cases other
      simp_all
    rwa [heq]
  refine eq_of_ascending GroupKinds.group hfirst.ascending hsecond.ascending fun entry => ?_
  exact ⟨hsub hfirst hsecond h entry, hsub hsecond hfirst (fun r => (h r).symm) entry⟩

/-! ## Gathering -/

theorem insertName_ascending (name : String) {names : List String} (h : names.Pairwise (· < ·)) :
    (insertName name names).Pairwise (· < ·) := by
  induction names with
  | nil => simp [insertName]
  | cons first rest ih =>
    obtain ⟨hfirst, hrest⟩ := List.pairwise_cons.1 h
    rw [insertName]
    split
    · next hlt => exact ascending_cons_cons id hlt h
    · next hnlt =>
      split
      · exact h
      · next hne =>
        refine List.pairwise_cons.2 ⟨fun other hother => ?_, ih hrest⟩
        rcases mem_insertName.1 hother with rfl | hother
        · exact lt_of_not_lt_of_ne hnlt hne
        · exact hfirst other hother

theorem insertName_ne_nil (name : String) (names : List String) : insertName name names ≠ [] := by
  exact List.ne_nil_of_mem (mem_insertName.2 (.inl rfl))

/-- An insertion adds no group but that of the resource kind. -/
theorem group_of_mem_insert {resource : ResourceKind} {entry : GroupKinds} {kinds : Kinds}
    (h : entry ∈ insert resource kinds) :
    entry.group = resource.group ∨ ∃ old ∈ kinds, old.group = entry.group := by
  induction kinds with
  | nil =>
    rw [insert, List.mem_singleton] at h
    exact .inl (h ▸ rfl)
  | cons first rest ih =>
    rw [insert] at h
    split at h
    · rcases List.mem_cons.1 h with rfl | h
      · exact .inl rfl
      · exact .inr ⟨entry, h, rfl⟩
    · split at h
      · next heq =>
        rcases List.mem_cons.1 h with rfl | h
        · exact .inl heq.symm
        · exact .inr ⟨entry, List.mem_cons_of_mem _ h, rfl⟩
      · rcases List.mem_cons.1 h with rfl | h
        · exact .inr ⟨entry, List.mem_cons_self, rfl⟩
        · refine (ih h).imp_right ?_
          rintro ⟨old, hold, hgroup⟩
          exact ⟨old, List.mem_cons_of_mem _ hold, hgroup⟩

/-- An insertion keeps kinds ordered. -/
theorem Ordered.insert (resource : ResourceKind) {kinds : Kinds} (h : Ordered kinds) :
    Ordered (insert resource kinds) := by
  have hnew : GroupKinds.Ordered ⟨resource.group, [resource.kind]⟩ :=
    ⟨List.cons_ne_nil _ _, List.pairwise_singleton _ _⟩
  induction kinds with
  | nil => exact ⟨List.pairwise_singleton _ _, by simpa [Kinds.insert] using hnew⟩
  | cons entry rest ih =>
    obtain ⟨hentry, hrest⟩ := List.pairwise_cons.1 h.ascending
    have hold := h.entries entry List.mem_cons_self
    rw [Kinds.insert]
    split
    · next hlt =>
      refine ⟨ascending_cons_cons GroupKinds.group hlt h.ascending, ?_⟩
      exact List.forall_mem_cons.2 ⟨hnew, h.entries⟩
    · next hnlt =>
      split
      · refine ⟨List.pairwise_cons.2 ⟨hentry, hrest⟩, List.forall_mem_cons.2 ⟨?_, h.tail.entries⟩⟩
        exact ⟨insertName_ne_nil _ _, insertName_ascending _ hold.ascending⟩
      · next hne =>
        have htail := ih h.tail
        refine ⟨List.pairwise_cons.2 ⟨fun other hother => ?_, htail.ascending⟩,
          List.forall_mem_cons.2 ⟨hold, htail.entries⟩⟩
        rcases group_of_mem_insert hother with hgroup | ⟨old, hmem, hgroup⟩
        · rw [hgroup]
          exact lt_of_not_lt_of_ne hnlt hne
        · rw [← hgroup]
          exact hentry old hmem

/-- Resource kinds, gathered. -/
def ofResources (resources : List ResourceKind) : Kinds :=
  resources.foldl (fun kinds resource => insert resource kinds) []

theorem insertWords_nil (words : List String) :
    insertWords [] words = ofResources (words.map ResourceKind.ofWord) := by
  rw [ofResources, List.foldl_map, insertWords]

theorem ofResources_ordered (resources : List ResourceKind) : Ordered (ofResources resources) := by
  have hfold : ∀ {kinds : Kinds}, Ordered kinds →
      Ordered (resources.foldl (fun kinds resource => insert resource kinds) kinds) := by
    induction resources with
    | nil => exact fun h => h
    | cons resource rest ih => exact fun h => ih (h.insert resource)
  exact hfold ⟨.nil, by simp⟩

/-- Gathering loses no resource kind and adds none. -/
theorem mem_resources_ofResources {resource : ResourceKind} {resources : List ResourceKind} :
    resource ∈ (ofResources resources).resources ↔ resource ∈ resources := by
  have hfold : ∀ kinds : Kinds,
      resource ∈ (resources.foldl (fun kinds r => insert r kinds) kinds).resources ↔
        resource ∈ resources ∨ resource ∈ kinds.resources := by
    induction resources with
    | nil => simp
    | cons first rest ih =>
      intro kinds
      rw [List.foldl_cons, ih, mem_resources_insert, List.mem_cons, or_assoc, or_left_comm]
  rw [ofResources, hfold]
  simp [Kinds.resources]

/-- Ordered kinds are what their resource kinds are gathered to. -/
theorem Ordered.ofResources_resources {kinds : Kinds} (h : Ordered kinds) :
    ofResources kinds.resources = kinds :=
  (ofResources_ordered _).ext h fun _ => mem_resources_ofResources

end Kinds

end PolicyHeader
