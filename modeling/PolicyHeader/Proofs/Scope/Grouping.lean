import PolicyHeader.Proofs.Scope.Faults
import PolicyHeader.Proofs.Scope.Kinds

/-!
# Kinds are grouped by what is written

A word names a resource kind by its first slash (`ResourceKind.Names`), and reading the lines of kinds comes
to the one ordered grouping of all resource kinds that their words name (`Kinds.result_read_grouping`). How
the words are ordered, repeated or spread over the lines is of no account. The empty name of the core group
is below all others, so an order that asks for the core group first is the order of the names.
-/

namespace PolicyHeader

/-- A group stands before the first slash of a word, and the core group may be left out. -/
inductive ResourceKind.Names : String → ResourceKind → Prop
  | whole {word : String} (h : '/' ∉ word.toList) : Names word ⟨"", word⟩
  | core (kind : String) : Names (coreGroup ++ "/" ++ kind) ⟨"", kind⟩
  | grouped {group : String} (kind : String) (hslash : '/' ∉ group.toList) (hcore : group ≠ coreGroup) :
      Names (group ++ "/" ++ kind) ⟨group, kind⟩

namespace ResourceKind

theorem names_iff {word : String} {resource : ResourceKind} :
    Names word resource ↔ ofWord word = resource := by
  have hcut : ∀ {group kind : String}, Text.cutText? '/' word = some (group, kind) ↔
      '/' ∉ group.toList ∧ word = group ++ "/" ++ kind :=
    Text.cutText?_eq_some_iff_append "/" rfl
  constructor
  · intro h
    cases h with
    | whole h => rw [ofWord, Text.cutText?_eq_none_iff.2 h]
    | core kind =>
      have hslash : '/' ∉ coreGroup.toList := by decide
      simp [ofWord, hcut.2 ⟨hslash, rfl⟩]
    | grouped kind hslash hcore => simp [ofWord, hcut.2 ⟨hslash, rfl⟩, hcore]
  · rintro rfl
    unfold ofWord
    split
    · next hwhole => exact .whole (Text.cutText?_eq_none_iff.1 hwhole)
    · next group kind hparts =>
      obtain ⟨hslash, rfl⟩ := hcut.1 hparts
      by_cases hcore : group = coreGroup
      · rw [if_pos hcore, hcore]
        exact .core kind
      · rw [if_neg hcore]
        exact .grouped kind hslash hcore

/-- A word of the lines of kinds names the resource kind. -/
def WrittenIn (lines : List String) (resource : ResourceKind) : Prop :=
  ∃ word ∈ (taggedWords Tag.kinds lines).flatten, Names word resource

theorem Names.group_ne_core {word : String} {resource : ResourceKind} (h : Names word resource) :
    resource.group ≠ coreGroup := by
  cases h with
  | whole _ => simp [coreGroup]
  | core _ => simp [coreGroup]
  | grouped _ _ hcore => exact hcore

end ResourceKind

/-- The order that puts the core group first, and then goes by the names of the groups. -/
def GroupKinds.coreFirst (first second : GroupKinds) : Bool :=
  if first.isCore = second.isCore then first.group ≤ second.group else first.isCore

namespace Kinds

/-! ## Groupings -/

/-- The ordered kinds that hold all resource kinds of some sort, and no others. -/
structure IsGrouping (Wanted : ResourceKind → Prop) (kinds : Kinds) : Prop where
  ordered : kinds.Ordered
  mem_resources_iff : ∀ resource, resource ∈ kinds.resources ↔ Wanted resource

theorem IsGrouping.eq {Wanted : ResourceKind → Prop} {first second : Kinds}
    (hfirst : IsGrouping Wanted first) (hsecond : IsGrouping Wanted second) : first = second := by
  refine hfirst.ordered.ext hsecond.ordered fun resource => ?_
  rw [hfirst.mem_resources_iff, hsecond.mem_resources_iff]

theorem isGrouping_gather (lines : List String) :
    IsGrouping (ResourceKind.WrittenIn lines) (Scope.gather lines).kinds := by
  have hkinds : (Scope.gather lines).kinds =
      ofResources ((taggedWords Tag.kinds lines).flatten.map ResourceKind.ofWord) :=
    insertWords_nil _
  rw [hkinds]
  refine ⟨ofResources_ordered _, fun resource => ?_⟩
  simp only [mem_resources_ofResources, List.mem_map, ResourceKind.WrittenIn, ResourceKind.names_iff]

/-! ## The core group first -/

theorem not_lt_empty (s : String) : ¬ s < "" := by
  rw [String.lt_iff]
  exact List.not_lt_nil s.toList

/-- Only the first entry of ordered kinds can be that of the core group. -/
theorem Ordered.head?_of_isCore {kinds : Kinds} (h : Ordered kinds) {entry : GroupKinds}
    (hentry : entry ∈ kinds) (hcore : entry.isCore = true) : kinds.head? = some entry := by
  cases kinds with
  | nil => cases hentry
  | cons first rest =>
    rcases List.mem_cons.1 hentry with rfl | hrest
    · rfl
    · have hlt := (List.pairwise_cons.1 h.ascending).1 entry hrest
      have hempty : entry.group = "" := of_decide_eq_true hcore
      rw [hempty] at hlt
      exact absurd hlt (not_lt_empty _)

theorem Ordered.mergeSort_coreFirst {kinds : Kinds} (h : Ordered kinds) :
    kinds.mergeSort GroupKinds.coreFirst = kinds := by
  refine List.mergeSort_of_pairwise (h.ascending.imp ?_)
  intro first second hlt
  have hsecond : second.isCore = false := by
    refine decide_eq_false fun hempty => ?_
    rw [hempty] at hlt
    exact not_lt_empty _ hlt
  unfold GroupKinds.coreFirst
  by_cases hfirst : first.isCore = true
  · simp [hfirst, hsecond]
  · simp [hfirst, hsecond, Std.le_of_lt hlt]

/-! ## Reading kinds -/

theorem result_read_of_not_bare {lines : List String}
    (h : ∀ line ∈ lines, Tag.wordsAfter? Tag.kinds line ≠ some []) :
    (family.read lines).result = .ok (Scope.gather lines).kinds := by
  rw [Scope.result_read_kinds, firstFault?_kinds_eq_none_iff.2 h, endWith_none]

/-- **Kinds are grouped by what is written.** Where no line of kinds is without values, the kinds that are
read are the one list with ascending groups, each with ascending kinds and at least one, that holds a
resource kind exactly if some word names it. No group is called `core`, the core group comes first, and
sorting for that moves nothing. Other lines with the same words, in any order and number, come to the same
kinds. -/
theorem result_read_grouping {lines : List String}
    (h : ∀ line ∈ lines, Tag.wordsAfter? Tag.kinds line ≠ some []) :
    ∃ kinds, (family.read lines).result = .ok kinds ∧
      (∀ other, IsGrouping (ResourceKind.WrittenIn lines) other ↔ other = kinds) ∧
      (∀ entry ∈ kinds, entry.group ≠ coreGroup) ∧
      (∀ entry ∈ kinds, entry.isCore = true → kinds.head? = some entry) ∧
      kinds.mergeSort GroupKinds.coreFirst = kinds ∧
      ∀ others, (∀ line ∈ others, Tag.wordsAfter? Tag.kinds line ≠ some []) →
        (∀ word, word ∈ (taggedWords Tag.kinds others).flatten ↔
          word ∈ (taggedWords Tag.kinds lines).flatten) →
          (family.read others).result = .ok kinds := by
  have hgrouping := isGrouping_gather lines
  have hordered := hgrouping.ordered
  refine ⟨_, result_read_of_not_bare h, fun other => ⟨fun hother => hother.eq hgrouping, ?_⟩, ?_,
    fun entry => hordered.head?_of_isCore, hordered.mergeSort_coreFirst, ?_⟩
  · rintro rfl
    exact hgrouping
  · intro entry hentry
    -- an ordered entry has some kind, which a word names with the group
    obtain ⟨kind, hkind⟩ := List.exists_mem_of_ne_nil _ (hordered.entries entry hentry).ne_nil
    have hmem := (hordered.mem_kinds_iff hentry kind).1 hkind
    obtain ⟨word, -, hnames⟩ := (hgrouping.mem_resources_iff _).1 hmem
    exact hnames.group_ne_core
  · intro others hothers hwords
    have hwritten : ResourceKind.WrittenIn others = ResourceKind.WrittenIn lines := by
      funext resource
      simp only [ResourceKind.WrittenIn, hwords]
    have hsame := isGrouping_gather others
    rw [hwritten] at hsame
    rw [result_read_of_not_bare hothers, hsame.eq hgrouping]

/-- Words without a group, without a kind and without both stand beside others. -/
def scatteredLines : List String :=
  ["@kinds apps/Job core/Pod / apps/", "kinds", "@kinds core/core/x Pod"]

/-- The same words in another order, one of them twice. -/
def regroupedLines : List String :=
  ["@kinds Pod core/core/x / apps/ apps/Job", " @kinds core/Pod /"]

theorem result_read_of_scatteredLines :
    (∀ line ∈ scatteredLines, Tag.wordsAfter? Tag.kinds line ≠ some []) ∧
    (family.read scatteredLines).result = .ok [⟨"", ["", "Pod", "core/x"]⟩, ⟨"apps", ["", "Job"]⟩] ∧
    (family.read regroupedLines).result = .ok [⟨"", ["", "Pod", "core/x"]⟩, ⟨"apps", ["", "Job"]⟩] := by
  have hbare : ∀ line ∈ scatteredLines, Tag.wordsAfter? Tag.kinds line ≠ some [] := by decide
  have hread : (family.read scatteredLines).result =
      .ok [⟨"", ["", "Pod", "core/x"]⟩, ⟨"apps", ["", "Job"]⟩] := by decide +kernel
  have hsame : ∀ word ∈ (taggedWords Tag.kinds regroupedLines).flatten,
      word ∈ (taggedWords Tag.kinds scatteredLines).flatten := by decide +kernel
  have hback : ∀ word ∈ (taggedWords Tag.kinds scatteredLines).flatten,
      word ∈ (taggedWords Tag.kinds regroupedLines).flatten := by decide +kernel
  obtain ⟨kinds, hkinds, -, -, -, -, hothers⟩ := result_read_grouping hbare
  obtain rfl := Except.ok.inj (hkinds.symm.trans hread)
  exact ⟨hbare, hread, hothers _ (by decide) fun word => ⟨hsame word, hback word⟩⟩

end Kinds

end PolicyHeader
