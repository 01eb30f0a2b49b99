import PolicyHeader.Proofs.Scope.Grouping
import PolicyHeader.Proofs.Scope.Rereading

/-!
# Writing kinds that are in no order

Kinds need not come from lines: a group may be there twice, under either name of the core group, or without
kinds, and nothing need ascend. Written on a line and read again they come to the one canonical value with
the same resource kinds (`Kinds.result_read_text`).
-/

namespace PolicyHeader

open Text (Unbroken wordsOf)

/-- Kinds of a group that can be written so that group and kinds are told apart again. -/
structure GroupKinds.Writable (entry : GroupKinds) : Prop where
  slash_not_mem : '/' ∉ entry.group.toList
  unbroken_group : Unbroken entry.group
  unbroken_kinds : ∀ kind ∈ entry.kinds, Unbroken kind

instance (entry : GroupKinds) : Decidable entry.Writable :=
  decidable_of_iff
    ('/' ∉ entry.group.toList ∧ Unbroken entry.group ∧ ∀ kind ∈ entry.kinds, Unbroken kind)
    ⟨fun h => ⟨h.1, h.2.1, h.2.2⟩, fun h => ⟨h.1, h.2, h.3⟩⟩

namespace Kinds

/-- Some entry lists the kind under the name of its group, or under `core` for the core group. -/
def Lists (kinds : Kinds) (resource : ResourceKind) : Prop :=
  ∃ entry ∈ kinds, ∃ kind ∈ entry.kinds,
    resource = ⟨if entry.group = coreGroup then "" else entry.group, kind⟩

/-- The line that kinds are written on. -/
def line (kinds : Kinds) : String :=
  Tag.kinds ++ " " ++ kinds.text

/-- The canonical kinds with the same resource kinds. -/
def normal (kinds : Kinds) : Kinds :=
  ofResources (kinds.resources.map ResourceKind.normal)

theorem isGrouping_normal (kinds : Kinds) : IsGrouping kinds.Lists kinds.normal := by
  refine ⟨ofResources_ordered _, fun resource => ?_⟩
  rw [normal, mem_resources_ofResources, List.mem_map]
  constructor
  · rintro ⟨written, hwritten, rfl⟩
    obtain ⟨entry, hentry, hgroup, hkind⟩ := mem_resources.1 hwritten
    exact ⟨entry, hentry, written.kind, hkind, by rw [hgroup, ResourceKind.normal]⟩
  · rintro ⟨entry, hentry, kind, hkind, rfl⟩
    exact ⟨⟨entry.group, kind⟩, mem_resources.2 ⟨entry, hentry, rfl, hkind⟩, rfl⟩

theorem resources_eq_nil_iff {kinds : Kinds} :
    kinds.resources = [] ↔ ∀ entry ∈ kinds, entry.kinds = [] := by
  simp [resources, GroupKinds.resources]

section Writable

variable {kinds : Kinds} (h : ∀ entry ∈ kinds, entry.Writable)
include h

theorem slash_not_mem_of_mem_resources : ∀ resource ∈ kinds.resources, '/' ∉ resource.group.toList := by
  intro resource hresource
  obtain ⟨entry, hentry, hgroup, -⟩ := mem_resources.1 hresource
  exact hgroup ▸ (h entry hentry).slash_not_mem

theorem unbroken_of_mem_resources :
    ∀ resource ∈ kinds.resources, Unbroken resource.group ∧ Unbroken resource.kind := by
  intro resource hresource
  obtain ⟨entry, hentry, hgroup, hkind⟩ := mem_resources.1 hresource
  exact ⟨hgroup ▸ (h entry hentry).unbroken_group, (h entry hentry).unbroken_kinds _ hkind⟩

theorem insertWords_text_eq_normal :
    insertWords [] (kinds.resources.map ResourceKind.text) = kinds.normal := by
  rw [insertWords_nil, List.map_map, normal]
  refine congrArg ofResources (List.map_congr_left fun resource hresource => ?_)
  exact ResourceKind.ofWord_text (slash_not_mem_of_mem_resources h resource hresource)

/-- The normal form is made of what the words of the line name. -/
theorem normal_canonical : kinds.normal.Canonical := by
  rw [← insertWords_text_eq_normal h]
  refine insertWords_canonical fun w hw => ?_
  rw [← wordsOf_text (unbroken_of_mem_resources h)] at hw
  exact Text.isWord_of_mem_wordsOf hw

/-- The line gives its words, and is at fault if there are none. -/
theorem result_read_line :
    (family.read [kinds.line]).result =
      if kinds.resources = [] then .error (.noValues Tag.kinds) else .ok kinds.normal := by
  have hwords := wordsOf_text (unbroken_of_mem_resources h)
  have htagged : taggedWords Tag.kinds [kinds.line] = [kinds.resources.map ResourceKind.text] := by
    rw [← hwords]
    exact taggedWords_lines Tag.isWord_kinds [kinds.text]
  have hgather : (Scope.gather [kinds.line]).kinds = kinds.normal := by
    rw [Scope.gather, htagged, List.flatten_singleton, insertWords_text_eq_normal h]
  have hfault : firstFault? Tag.kinds fault? [kinds.line] =
      if kinds.resources = [] then some (.noValues Tag.kinds) else none := by
    rw [firstFault?, List.findSome?_singleton, line, Tag.wordsAfter?_line Tag.isWord_kinds, if_pos rfl,
      hwords, Option.bind_some, fault?]
    simp
  rw [Scope.result_read_kinds, hgather, hfault]
  split <;> rfl

end Writable

/-- **Writing kinds and reading them again puts them in order.** Take any kinds whose groups hold no slash
and no blank and whose kinds hold no blank. If there is a kind among them, their line is read, and what it
gives is canonical and the one ordered grouping of the kinds listed, those under `core` with those under the
empty name. If all entries are without kinds, the line is without values. -/
theorem result_read_text {kinds : Kinds} (h : ∀ entry ∈ kinds, entry.Writable) :
    ((∃ entry ∈ kinds, entry.kinds ≠ []) →
      ∃ found : Kinds, (family.read [Tag.kinds ++ " " ++ kinds.text]).result = .ok found ∧
        found.Canonical ∧ ∀ other, IsGrouping kinds.Lists other ↔ other = found) ∧
    ((∀ entry ∈ kinds, entry.kinds = []) →
      (family.read [Tag.kinds ++ " " ++ kinds.text]).result = .error (.noValues Tag.kinds)) := by
  have hread := result_read_line h
  constructor
  · rintro ⟨entry, hentry, hkinds⟩
    have hne : kinds.resources ≠ [] := fun hnil => hkinds (resources_eq_nil_iff.1 hnil entry hentry)
    rw [if_neg hne] at hread
    refine ⟨kinds.normal, hread, normal_canonical h, fun other => ⟨fun hother => ?_, ?_⟩⟩
    · exact hother.eq (isGrouping_normal kinds)
    · rintro rfl
      exact isGrouping_normal kinds
  · intro hnone
    rwa [if_pos (resources_eq_nil_iff.2 hnone)] at hread

/-- Both names of the core group, a group that is there twice and once without kinds, and an empty kind. -/
def disordered : Kinds :=
  [⟨"core", ["Pod", ""]⟩, ⟨"apps", []⟩, ⟨"apps", ["Job", "CronJob", "Job"]⟩, ⟨"", ["a/b", "Pod"]⟩]

theorem result_read_text_of_disordered :
    (∀ entry ∈ disordered, entry.Writable) ∧
    (family.read ["@kinds core/Pod core/ apps/Job apps/CronJob apps/Job core/a/b core/Pod"]).result =
      .ok [⟨"", ["", "Pod", "a/b"]⟩, ⟨"apps", ["CronJob", "Job"]⟩] ∧
    IsGrouping disordered.Lists [⟨"", ["", "Pod", "a/b"]⟩, ⟨"apps", ["CronJob", "Job"]⟩] ∧
    (family.read ["@kinds "]).result = .error (.noValues "@kinds") := by
  have hwritable : ∀ entry ∈ disordered, entry.Writable := by decide
  have hread : (family.read
      ["@kinds core/Pod core/ apps/Job apps/CronJob apps/Job core/a/b core/Pod"]).result =
        .ok [⟨"", ["", "Pod", "a/b"]⟩, ⟨"apps", ["CronJob", "Job"]⟩] := by decide +kernel
  have hline : Tag.kinds ++ " " ++ disordered.text =
      "@kinds core/Pod core/ apps/Job apps/CronJob apps/Job core/a/b core/Pod" := by decide +kernel
  obtain ⟨found, hfound, -, hgrouping⟩ := (result_read_text hwritable).1 (by decide)
  rw [hline, hread] at hfound
  obtain rfl := Except.ok.inj hfound
  refine ⟨hwritable, hread, (hgrouping _).2 rfl, ?_⟩
  exact (@result_read_text [⟨"apps", []⟩] (by decide)).2 (by decide)

end Kinds

end PolicyHeader
