import PolicyHeader.Proofs.Scope.Gathering
import PolicyHeader.Proofs.Scope.Kinds

/-!
# Canonical scopes

A scope is canonical if its kinds are ordered and each of its names can be written in a word without
being taken apart: a group holds no slash and is not `core`, a label key no equals sign, a value of a
requirement no comma, and none of them a blank. Whatever lines come to is canonical
(`gather_canonical`), and what a canonical scope is written with is read back as it was.
-/

namespace PolicyHeader

open Text (IsWord Unbroken)

/-- What is written and read back one by one is read back as it was. -/
theorem map_map_eq_self {α β : Type} {write : α → β} {read : β → α} {xs : List α}
    (h : ∀ x ∈ xs, read (write x) = x) : (xs.map write).map read = xs := by
  rw [List.map_map]
  exact (List.map_congr_left h).trans (List.map_id _)

/-! ## Kinds -/

/-- A resource kind that a word can name. -/
structure ResourceKind.Spelled (resource : ResourceKind) : Prop where
  group_ne_core : resource.group ≠ coreGroup
  slash_not_mem : '/' ∉ resource.group.toList
  unbroken_group : Unbroken resource.group
  unbroken_kind : Unbroken resource.kind

namespace ResourceKind

theorem spelled_core {kind : String} (h : Unbroken kind) : Spelled ⟨"", kind⟩ where
  group_ne_core := by simp [coreGroup]
  slash_not_mem := by simp
  unbroken_group := Text.unbroken_empty
  unbroken_kind := h

/-- A word names a resource kind that a word can name. -/
theorem spelled_ofWord {word : String} (h : Unbroken word) : (ofWord word).Spelled := by
  rw [ofWord]
  split
  · exact spelled_core h
  · next group kind hcut =>
    obtain ⟨hgroup, hkind⟩ := h.of_cutText? hcut
    split
    · exact spelled_core hkind
    · next hne => exact ⟨hne, (Text.cutText?_eq_some_iff.1 hcut).1, hgroup, hkind⟩

/-- The resource kind, with the empty name for the core group. -/
def normal (resource : ResourceKind) : ResourceKind :=
  ⟨if resource.group = coreGroup then "" else resource.group, resource.kind⟩

theorem Spelled.normal_eq {resource : ResourceKind} (h : resource.Spelled) :
    resource.normal = resource := by
  rw [normal, if_neg h.group_ne_core]

/-- The core group is written `core`, so every group is written with some letters. -/
theorem isWord_text {resource : ResourceKind} (hgroup : Unbroken resource.group)
    (hkind : Unbroken resource.kind) : IsWord resource.text := by
  have hcore : IsWord coreGroup := by decide
  have hslash : Unbroken "/" := by decide
  have hname : IsWord (if resource.group = "" then coreGroup else resource.group) := by
    split
    · exact hcore
    · next hne => exact ⟨hne, hgroup⟩
  exact (hname.append_left hslash).append_left hkind

/-- A group without slashes is read back up to the two names of the core group. -/
theorem ofWord_text {resource : ResourceKind} (h : '/' ∉ resource.group.toList) :
    ofWord resource.text = resource.normal := by
  have hcore : '/' ∉ coreGroup.toList := by decide
  have hcut : Text.cutText? '/' resource.text =
      some (if resource.group = "" then coreGroup else resource.group, resource.kind) := by
    refine (Text.cutText?_eq_some_iff_append "/" rfl).2 ⟨?_, rfl⟩
    split
    · exact hcore
    · exact h
  rw [ofWord, hcut, normal]
  by_cases hgroup : resource.group = ""
  · simp [hgroup, coreGroup]
  · by_cases hname : resource.group = coreGroup
    · simp [hname]
    · simp [hgroup, hname]

end ResourceKind

/-- The kinds of a group that lines can give. -/
structure GroupKinds.Canonical (entry : GroupKinds) : Prop extends entry.Ordered where
  group_ne_core : entry.group ≠ coreGroup
  slash_not_mem : '/' ∉ entry.group.toList
  unbroken_group : Unbroken entry.group
  unbroken_kinds : ∀ kind ∈ entry.kinds, Unbroken kind

namespace Kinds

/-- Kinds that lines can give: the groups ascend, so the core group comes first and none is repeated. -/
structure Canonical (kinds : Kinds) : Prop where
  ascending : kinds.Pairwise fun first second => first.group < second.group
  entries : ∀ entry ∈ kinds, entry.Canonical

theorem canonical_iff {kinds : Kinds} :
    kinds.Canonical ↔ kinds.Ordered ∧ ∀ resource ∈ kinds.resources, resource.Spelled := by
  constructor
  · intro h
    refine ⟨⟨h.ascending, fun entry hentry => (h.entries entry hentry).toOrdered⟩, ?_⟩
    intro resource hresource
    obtain ⟨entry, hentry, hgroup, hkind⟩ := mem_resources.1 hresource
    obtain ⟨-, hcore, hslash, hbroken, hkinds⟩ := h.entries entry hentry
    exact ⟨hgroup ▸ hcore, hgroup ▸ hslash, hgroup ▸ hbroken, hkinds _ hkind⟩
  · rintro ⟨hordered, hspelled⟩
    refine ⟨hordered.ascending, fun entry hentry => ?_⟩
    have hentries := hordered.entries entry hentry
    have hkinds : ∀ kind ∈ entry.kinds, ResourceKind.Spelled ⟨entry.group, kind⟩ := fun kind hkind =>
      hspelled _ ((hordered.mem_kinds_iff hentry kind).1 hkind)
    -- an ordered entry has some kind, and its resource kind tells about the group
    obtain ⟨kind, hkind⟩ := List.exists_mem_of_ne_nil _ hentries.ne_nil
    have hgroup := hkinds kind hkind
    exact ⟨hentries, hgroup.group_ne_core, hgroup.slash_not_mem, hgroup.unbroken_group,
      fun k hk => (hkinds k hk).unbroken_kind⟩

theorem insertWords_canonical {words : List String} (h : ∀ w ∈ words, IsWord w) :
    (insertWords [] words).Canonical := by
  rw [insertWords_nil]
  refine canonical_iff.2 ⟨ofResources_ordered _, fun resource hresource => ?_⟩
  obtain ⟨w, hw, rfl⟩ := List.mem_map.1 (mem_resources_ofResources.1 hresource)
  exact ResourceKind.spelled_ofWord (h w hw).unbroken

/-- The words of canonical kinds give the kinds. -/
theorem insertWords_text {kinds : Kinds} (h : kinds.Canonical) :
    insertWords [] (kinds.resources.map ResourceKind.text) = kinds := by
  obtain ⟨hordered, hspelled⟩ := canonical_iff.1 h
  have hwords : (kinds.resources.map ResourceKind.text).map ResourceKind.ofWord = kinds.resources :=
    map_map_eq_self fun resource hresource => by
      have hresource := hspelled resource hresource
      rw [ResourceKind.ofWord_text hresource.slash_not_mem, hresource.normal_eq]
  rw [insertWords_nil, hwords, hordered.ofResources_resources]

end Kinds

/-! ## Labels -/

namespace Labels

/-- A label that a word can give. -/
structure CanonicalEntry (entry : String × String) : Prop where
  isWord_key : IsWord entry.1
  equals_not_mem : '=' ∉ entry.1.toList
  unbroken_value : Unbroken entry.2

/-- Labels that lines can give. -/
def Canonical (labels : Labels) : Prop :=
  ∀ entry ∈ labels.entries, CanonicalEntry entry

/-- The word that gives a label. -/
def entryText (entry : String × String) : String :=
  entry.1 ++ "=" ++ entry.2

theorem cutText?_entryText {entry : String × String} (h : '=' ∉ entry.1.toList) :
    Text.cutText? '=' (entryText entry) = some entry :=
  (Text.cutText?_eq_some_iff_append "=" rfl).2 ⟨h, rfl⟩

theorem CanonicalEntry.isWord_entryText {entry : String × String} (h : CanonicalEntry entry) :
    IsWord (entryText entry) :=
  (h.isWord_key.append_left (by decide)).append_left h.unbroken_value

theorem CanonicalEntry.entryOf_entryText {entry : String × String} (h : CanonicalEntry entry) :
    entryOf (entryText entry) = entry := by
  rw [entryOf, cutText?_entryText h.equals_not_mem, Option.getD_some]

/-- The word of a label with a key is well formed under each policy. -/
theorem CanonicalEntry.isMalformed_entryText (policy : LabelPolicy) {entry : String × String}
    (h : CanonicalEntry entry) : isMalformed policy (entryText entry) = false := by
  rw [isMalformed_of_cut policy (cutText?_entryText h.equals_not_mem)]
  exact decide_eq_false h.isWord_key.ne_empty

/-- A well formed word gives a label that a word can give. -/
theorem canonicalEntry_entryOf {policy : LabelPolicy} {word : String} (hword : IsWord word)
    (h : isMalformed policy word = false) : CanonicalEntry (entryOf word) := by
  rw [entryOf]
  cases hcut : Text.cutText? '=' word with
  | none => exact ⟨hword, Text.cutText?_eq_none_iff.1 hcut, Text.unbroken_empty⟩
  | some entry =>
    obtain ⟨key, value⟩ := entry
    obtain ⟨hkey, hvalue⟩ := hword.unbroken.of_cutText? hcut
    rw [isMalformed_of_cut policy hcut] at h
    exact ⟨⟨of_decide_eq_false h, hkey⟩, (Text.cutText?_eq_some_iff.1 hcut).1, hvalue⟩

theorem insertAll_canonical {entries : List (String × String)}
    (h : ∀ entry ∈ entries, CanonicalEntry entry) : (empty.insertAll entries).Canonical := by
  intro entry hentry
  rcases mem_entries_insertAll hentry with hmem | hmem
  · exact h entry hmem
  · cases hmem

/-- The words of canonical labels give the labels. -/
theorem insertAll_entryText {labels : Labels} (h : labels.Canonical) :
    empty.insertAll ((labels.entries.map entryText).map entryOf) = labels := by
  have hwords : (labels.entries.map entryText).map entryOf = labels.entries :=
    map_map_eq_self fun entry hentry => (h entry hentry).entryOf_entryText
  rw [hwords, insertAll_entries]

end Labels

/-! ## Requirements -/

namespace Requirement

/-- A requirement that a line can give. -/
structure Canonical (requirement : Requirement) : Prop where
  isWord_key : IsWord requirement.key
  isWord_operator : IsWord requirement.operator
  comma_not_mem : ∀ value ∈ requirement.values, ',' ∉ value.toList
  unbroken_values : ∀ value ∈ requirement.values, Unbroken value
  values_ne : requirement.values ≠ [""]

/-- The words that give a requirement. -/
def words (requirement : Requirement) : List String :=
  [requirement.key, requirement.operator] ++
    if requirement.values.isEmpty then [] else [",".intercalate requirement.values]

theorem text_eq_intercalate (requirement : Requirement) :
    requirement.text = " ".intercalate requirement.words := by
  rw [text, words]
  split
  · simp [String.intercalate_cons_cons]
  · simp [String.intercalate_cons_cons, String.append_assoc]

/-- Cutting a word at its commas loses nothing. -/
theorem intercalate_valuesOfWord (word : String) : ",".intercalate (valuesOfWord word) = word := by
  have hback : (valuesOfWord word).map String.toList = word.toList.splitOn ',' :=
    map_map_eq_self fun _ _ => String.toList_ofList
  have hcomma : ",".toList = [','] := rfl
  rw [← String.toList_inj, String.toList_intercalate, hback, hcomma, List.intercalate_splitOn]

theorem comma_not_mem_valuesOfWord (word : String) :
    ∀ value ∈ valuesOfWord word, ',' ∉ value.toList := by
  intro value hvalue hcomma
  obtain ⟨piece, hpiece, rfl⟩ := List.mem_map.1 hvalue
  rw [List.splitOn_eq_splitOnP] at hpiece
  rw [String.toList_ofList] at hcomma
  simpa using Text.not_of_mem_splitOnP hpiece ',' hcomma

/-- Values that are joined with commas are read back, if there are some. -/
theorem valuesOfWord_intercalate {values : List String} (hne : values ≠ [])
    (h : ∀ value ∈ values, ',' ∉ value.toList) :
    valuesOfWord (",".intercalate values) = values := by
  have hsplit : ([','].intercalate (values.map String.toList)).splitOn ',' =
      values.map String.toList :=
    List.splitOn_intercalate ',' (by simpa using h) (by simpa using hne)
  have hcomma : ",".toList = [','] := rfl
  rw [valuesOfWord, String.toList_intercalate, hcomma, hsplit]
  exact map_map_eq_self fun _ _ => String.ofList_toList

theorem ofWords?_words {requirement : Requirement} (h : requirement.Canonical) :
    ofWords? requirement.words = some requirement := by
  rw [words]
  split
  · next hempty =>
    rw [List.append_nil, ofWords?, ← List.isEmpty_iff.1 hempty]
  · next hempty =>
    have hne : requirement.values ≠ [] := fun he => hempty (List.isEmpty_iff.2 he)
    simp only [List.cons_append, List.nil_append, ofWords?]
    rw [valuesOfWord_intercalate hne h.comma_not_mem]

theorem isWord_of_mem_words {requirement : Requirement} (h : requirement.Canonical) :
    ∀ w ∈ requirement.words, IsWord w := by
  intro w hw
  rw [words] at hw
  split at hw
  · simp only [List.append_nil, List.mem_cons, List.not_mem_nil, or_false] at hw
    rcases hw with rfl | rfl
    · exact h.isWord_key
    · exact h.isWord_operator
  · next hempty =>
    simp only [List.cons_append, List.nil_append, List.mem_cons, List.not_mem_nil, or_false] at hw
    rcases hw with rfl | rfl | rfl
    · exact h.isWord_key
    · exact h.isWord_operator
    · refine ⟨fun hjoined => ?_, ?_⟩
      · -- only no values and one empty value join to the empty text
        have hback := valuesOfWord_intercalate (fun he => hempty (List.isEmpty_iff.2 he))
          h.comma_not_mem
        rw [hjoined] at hback
        exact h.values_ne hback.symm
      · exact (Text.unbroken_intercalate (by decide)).2 h.unbroken_values

theorem canonical_of_ofWords? {ws : List String} {requirement : Requirement}
    (h : ofWords? ws = some requirement) (hws : ∀ w ∈ ws, IsWord w) : requirement.Canonical := by
  unfold ofWords? at h
  split at h
  · next key operator =>
    obtain rfl := Option.some.inj h
    exact ⟨hws key (by simp), hws operator (by simp), by simp, by simp, by simp⟩
  · next key operator word =>
    obtain rfl := Option.some.inj h
    obtain ⟨hne, hunbroken⟩ := hws word (by simp)
    refine ⟨hws key (by simp), hws operator (by simp), comma_not_mem_valuesOfWord word, ?_, ?_⟩
    · rwa [← intercalate_valuesOfWord word, Text.unbroken_intercalate (by decide)] at hunbroken
    · rintro (hvalues : valuesOfWord word = [""])
      rw [← intercalate_valuesOfWord word, hvalues] at hne
      exact hne String.intercalate_singleton
  · cases h

end Requirement

namespace Scope

/-- A scope that lines can give. -/
structure Canonical (scope : Scope) : Prop where
  kinds : scope.kinds.Canonical
  labels : scope.labels.Canonical
  requirements : ∀ requirement ∈ scope.requirements, requirement.Canonical

theorem labels_gather_canonical {policy : LabelPolicy} {lines : List String}
    (h : firstFault? Tag.labels (Labels.fault? policy) lines = none) :
    (gather lines).labels.Canonical := by
  refine Labels.insertAll_canonical fun entry hentry => ?_
  obtain ⟨w, hw, rfl⟩ := List.mem_map.1 hentry
  obtain ⟨ws, hws, hmem⟩ := List.mem_flatten.1 hw
  obtain ⟨line, hfault⟩ := exists_fault?_eq_none h hws
  exact Labels.canonicalEntry_entryOf (isWord_of_mem_taggedWords hws hmem)
    ((Labels.fault?_eq_none_iff.1 hfault).2 w hmem)

/-- What lines come to without a fault is canonical. -/
theorem gather_canonical {policy : LabelPolicy} {lines : List String}
    (h : fault? policy lines = none) : (gather lines).Canonical := by
  rw [fault?, Option.or_eq_none_iff, Option.or_eq_none_iff] at h
  obtain ⟨-, hlabels, -⟩ := h
  refine ⟨Kinds.insertWords_canonical fun w hw => ?_, labels_gather_canonical hlabels,
    fun requirement hrequirement => ?_⟩
  · obtain ⟨ws, hws, hmem⟩ := List.mem_flatten.1 hw
    exact isWord_of_mem_taggedWords hws hmem
  · obtain ⟨ws, hws, hread⟩ := List.mem_filterMap.1 hrequirement
    exact Requirement.canonical_of_ofWords? hread fun w hw => isWord_of_mem_taggedWords hws hw

end Scope

end PolicyHeader
