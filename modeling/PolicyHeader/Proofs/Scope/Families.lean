import PolicyHeader.Header
import PolicyHeader.Proofs.Scope.Gathering
import PolicyHeader.Proofs.Scope.Kinds

/-!
# The families do not interfere

A line belongs to the family whose tag is its first word, and to no other. Each reader looks at the
lines of its own family alone (`filterMap_linesOf`, `findSome?_linesOf`), so what it comes to is settled by
these lines and their order. How the families are mixed, and which other lines stand between them, is of
no account (`Header.linesOf_decide`). And a line of a family leaves something in the scope, so a scope is
empty only if there is no such line (`Scope.isEmpty_gather_iff`).
-/

namespace PolicyHeader

namespace Tag

/-- Whether a line carries a tag: its first word is the tag. -/
def carries (tag line : String) : Bool :=
  (Text.wordsOf line).head? = some tag

/-- The lines that carry a tag, in order. -/
def linesOf (tag : String) (lines : List String) : List String :=
  lines.filter (carries tag)

theorem isWord_title : Text.IsWord title := by
  decide

theorem isWord_enforcement : Text.IsWord enforcement := by
  decide

theorem carries_iff {tag line : String} :
    carries tag line = true ↔ (Text.wordsOf line).head? = some tag :=
  decide_eq_true_iff

theorem carries_eq_isSome (tag line : String) : carries tag line = (wordsAfter? tag line).isSome := by
  rw [carries, wordsAfter?]
  cases Text.wordsOf line with
  | nil => rfl
  | cons first rest =>
    by_cases hfirst : first = tag
    · simp [hfirst]
    · simp [hfirst]

theorem wordsAfter?_eq_none_iff {tag line : String} :
    wordsAfter? tag line = none ↔ carries tag line = false := by
  rw [carries_eq_isSome, Option.isSome_eq_false_iff, Option.isNone_iff_eq_none]

/-- No line belongs to two families. -/
theorem eq_of_carries {tag other line : String} (h : carries tag line = true)
    (hother : carries other line = true) : tag = other := by
  rw [carries_iff] at h hother
  exact Option.some.inj (h.symm.trans hother)

/-! ## The lines of a family -/

section linesOf

variable {β : Type} {tag : String} {f : String → Option β}

theorem filterMap_linesOf (hf : ∀ line, carries tag line = false → f line = none)
    (lines : List String) : (linesOf tag lines).filterMap f = lines.filterMap f := by
  rw [linesOf, List.filterMap_filter]
  refine List.filterMap_congr fun line _ => ?_
  cases hline : carries tag line with
  | true => rfl
  | false => exact (hf line hline).symm

theorem findSome?_linesOf (hf : ∀ line, carries tag line = false → f line = none)
    (lines : List String) : (linesOf tag lines).findSome? f = lines.findSome? f := by
  rw [← List.head?_filterMap, ← List.head?_filterMap, filterMap_linesOf hf]

end linesOf

theorem linesOf_linesOf (tag other : String) (lines : List String) :
    linesOf tag (linesOf other lines) = if other = tag then linesOf tag lines else [] := by
  rw [linesOf, linesOf, List.filter_filter]
  split
  · next heq => simp [heq, linesOf]
  · next hne =>
    rw [List.filter_eq_nil_iff]
    intro line _ hline
    obtain ⟨htag, hother⟩ := Bool.and_eq_true_iff.1 hline
    exact hne (eq_of_carries hother htag)

end Tag

open Tag (carries linesOf)

theorem taggedWords_linesOf (tag : String) (lines : List String) :
    taggedWords tag (linesOf tag lines) = taggedWords tag lines :=
  Tag.filterMap_linesOf (fun _ h => Tag.wordsAfter?_eq_none_iff.2 h) lines

theorem firstFault?_linesOf (tag : String) (fault? : String → List String → Option HeaderError)
    (lines : List String) :
    firstFault? tag fault? (linesOf tag lines) = firstFault? tag fault? lines := by
  refine Tag.findSome?_linesOf (fun line h => ?_) lines
  rw [Tag.wordsAfter?_eq_none_iff.2 h, Option.bind_none]

theorem taggedWords_eq_nil_iff {tag : String} {lines : List String} :
    taggedWords tag lines = [] ↔ ∀ line ∈ lines, carries tag line = false := by
  simp only [taggedWords, List.filterMap_eq_nil_iff, Tag.wordsAfter?_eq_none_iff]

namespace Scope

/-- The tags of the three families that a scope is read off. -/
def tags : List String :=
  [Tag.kinds, Tag.labels, Tag.requirement]

/-! ## A scope is settled by the lines of its families -/

section congr

variable {first second : List String} (h : ∀ tag ∈ tags, linesOf tag first = linesOf tag second)
include h

theorem taggedWords_congr {tag : String} (htag : tag ∈ tags) :
    taggedWords tag first = taggedWords tag second := by
  rw [← taggedWords_linesOf, h tag htag, taggedWords_linesOf]

theorem firstFault?_congr {tag : String} (htag : tag ∈ tags)
    (fault? : String → List String → Option HeaderError) :
    firstFault? tag fault? first = firstFault? tag fault? second := by
  rw [← firstFault?_linesOf, h tag htag, firstFault?_linesOf]

theorem result_ofLines_congr (settings : Settings) :
    (ofLines settings first).result = (ofLines settings second).result := by
  have hkinds : Tag.kinds ∈ tags := by simp [tags]
  have hlabels : Tag.labels ∈ tags := by simp [tags]
  have hrequirement : Tag.requirement ∈ tags := by simp [tags]
  have hfault : fault? settings.labelPolicy first = fault? settings.labelPolicy second := by
    rw [fault?, fault?, firstFault?_congr h hkinds, firstFault?_congr h hlabels,
      firstFault?_congr h hrequirement]
  have hgather : gather first = gather second := by
    rw [gather, gather, taggedWords_congr h hkinds, taggedWords_congr h hlabels,
      taggedWords_congr h hrequirement]
  rw [result_ofLines, result_ofLines, hfault, hgather]

end congr

/-- The lines of the three families, family by family. -/
def sortLines (lines : List String) : List String :=
  tags.flatMap fun tag => linesOf tag lines

theorem linesOf_sortLines (lines : List String) {tag : String} (htag : tag ∈ tags) :
    linesOf tag (sortLines lines) = linesOf tag lines := by
  have hother : linesOf tag (sortLines lines) =
      tags.flatMap fun other => linesOf tag (linesOf other lines) :=
    List.filter_flatMap
  rw [hother]
  simp only [Tag.linesOf_linesOf]
  simp only [tags, List.mem_cons, List.not_mem_nil, or_false] at htag
  -- the tags differ from one another, so one part of the three is left
  rcases htag with rfl | rfl | rfl <;> simp [tags, Tag.kinds, Tag.labels, Tag.requirement]

end Scope

/-! ## No annotation vanishes -/

theorem Kinds.insertWords_eq_nil_iff {words : List String} : insertWords [] words = [] ↔ words = [] := by
  cases words with
  | nil => simp [insertWords]
  | cons word rest =>
    have hmem : ResourceKind.ofWord word ∈ (insertWords [] (word :: rest)).resources := by
      rw [insertWords_nil, mem_resources_ofResources]
      exact List.mem_cons_self
    constructor
    · intro h
      rw [h] at hmem
      cases hmem
    · intro h
      cases h

theorem Labels.insertEntry_ne_nil (key value : String) (entries : List (String × String)) :
    insertEntry key value entries ≠ [] := by
  cases entries with
  | nil => simp [insertEntry]
  | cons first rest =>
    rw [insertEntry]
    split
    · simp
    · split
      · simp
      · simp

theorem Labels.isEmpty_insertAll_iff {labels : Labels} {entries : List (String × String)} :
    (labels.insertAll entries).isEmpty = true ↔ labels.isEmpty = true ∧ entries = [] := by
  induction entries generalizing labels with
  | nil => simp [insertAll]
  | cons first rest ih =>
    have hstep : labels.insertAll (first :: rest) =
        (labels.insert first.1 first.2).insertAll rest := rfl
    have hinsert : (labels.insert first.1 first.2).isEmpty = false := by
      simpa [isEmpty, insert] using insertEntry_ne_nil first.1 first.2 labels.entries
    rw [hstep, ih, hinsert]
    simp

namespace Scope

section isEmpty

variable {lines : List String}

/-- Where no line is at fault and each line of the family adds something, nothing is added only if there is
no such line. -/
theorem forall_taggedWords_iff {tag : String} {fault? : String → List String → Option HeaderError}
    {Adds : List String → Prop} (h : firstFault? tag fault? lines = none)
    (hadds : ∀ line words, fault? line words = none → Adds words) :
    (∀ words ∈ taggedWords tag lines, ¬ Adds words) ↔ ∀ line ∈ lines, carries tag line = false := by
  rw [← taggedWords_eq_nil_iff]
  constructor
  · intro hnone
    refine List.eq_nil_iff_forall_not_mem.2 fun words hwords => ?_
    obtain ⟨line, hline⟩ := exists_fault?_eq_none h hwords
    exact hnone words hwords (hadds line words hline)
  · intro hnil words hwords
    rw [hnil] at hwords
    cases hwords

theorem isEmpty_kinds_gather_iff (h : firstFault? Tag.kinds Kinds.fault? lines = none) :
    (gather lines).kinds.isEmpty = true ↔ ∀ line ∈ lines, carries Tag.kinds line = false := by
  rw [List.isEmpty_iff, gather, Kinds.insertWords_eq_nil_iff, List.flatten_eq_nil_iff,
    ← forall_taggedWords_iff h fun _ _ => Kinds.fault?_eq_none_iff.1]
  simp only [not_not]

theorem isEmpty_labels_gather_iff {policy : LabelPolicy}
    (h : firstFault? Tag.labels (Labels.fault? policy) lines = none) :
    (gather lines).labels.isEmpty = true ↔ ∀ line ∈ lines, carries Tag.labels line = false := by
  have hempty : Labels.empty.isEmpty = true := rfl
  rw [gather, Labels.isEmpty_insertAll_iff, and_iff_right hempty, List.map_eq_nil_iff,
    List.flatten_eq_nil_iff,
    ← forall_taggedWords_iff h fun _ _ hline => (Labels.fault?_eq_none_iff.1 hline).1]
  simp only [not_not]

theorem isEmpty_requirements_gather_iff
    (h : firstFault? Tag.requirement Requirement.fault? lines = none) :
    (gather lines).requirements.isEmpty = true ↔
      ∀ line ∈ lines, carries Tag.requirement line = false := by
  rw [List.isEmpty_iff, gather, List.filterMap_eq_nil_iff,
    ← forall_taggedWords_iff h fun _ _ => Requirement.fault?_eq_none_iff.1]
  simp only [Option.not_isSome_iff_eq_none]

theorem isEmpty_gather_iff {policy : LabelPolicy} (h : fault? policy lines = none) :
    (gather lines).isEmpty = true ↔ ∀ line ∈ lines, ∀ tag ∈ tags, carries tag line = false := by
  rw [fault?, Option.or_eq_none_iff, Option.or_eq_none_iff] at h
  obtain ⟨hkinds, hlabels, hrequirement⟩ := h
  rw [isEmpty, Bool.and_eq_true, Bool.and_eq_true, isEmpty_kinds_gather_iff hkinds,
    isEmpty_labels_gather_iff hlabels, isEmpty_requirements_gather_iff hrequirement]
  constructor
  · rintro ⟨⟨hk, hl⟩, hr⟩ line hline
    simpa [tags] using ⟨hk line hline, hl line hline, hr line hline⟩
  · intro hall
    refine ⟨⟨fun line hline => ?_, fun line hline => ?_⟩, fun line hline => ?_⟩
    · exact hall line hline _ (by simp [tags])
    · exact hall line hline _ (by simp [tags])
    · exact hall line hline _ (by simp [tags])

end isEmpty

end Scope

namespace Header

theorem firstValues?_congr {tag : String} (htag : Text.IsWord tag) {first second : Header}
    (h : linesOf tag first.lines = linesOf tag second.lines) :
    first.firstValues? tag = second.firstValues? tag := by
  have hother : ∀ line, carries tag line = false → Tag.values? tag line = none := fun line hline => by
    rw [Tag.values?_eq_wordsAfter? htag, Tag.wordsAfter?_eq_none_iff.2 hline]
  rw [firstValues?, firstValues?, ← Tag.findSome?_linesOf hother, h, Tag.findSome?_linesOf hother]

/-- **The lines of each family decide.** Two texts whose lines agree family by family come to the same
scope or the same error, under the same settings; so a header may be sorted by families, and lines of no
family may be left out. The title and the enforcing action hang on the lines of their own tags alone. A
scope is empty exactly if no line belongs to one of its families. -/
theorem linesOf_decide :
    (∀ (settings : Settings) (first second : List String),
      (∀ tag ∈ Scope.tags, linesOf tag first = linesOf tag second) →
        (Scope.ofLines settings first).result = (Scope.ofLines settings second).result) ∧
    (∀ (settings : Settings) (lines : List String),
      (Scope.ofLines settings lines).result =
        (Scope.ofLines settings (Scope.sortLines lines)).result) ∧
    (∀ first second : Header,
      linesOf Tag.title first.lines = linesOf Tag.title second.lines → first.title = second.title) ∧
    (∀ first second : Header,
      linesOf Tag.enforcement first.lines = linesOf Tag.enforcement second.lines →
        first.enforcement = second.enforcement) ∧
    (∀ (settings : Settings) (lines : List String) (scope : Scope),
      (Scope.ofLines settings lines).result = .ok scope →
        (scope.isEmpty = true ↔ ∀ line ∈ lines, ∀ tag ∈ Scope.tags, carries tag line = false)) := by
  refine ⟨fun settings _ _ h => Scope.result_ofLines_congr h settings, fun settings lines => ?_,
    fun first second h => ?_, fun first second h => ?_, fun settings lines scope h => ?_⟩
  · exact Scope.result_ofLines_congr (fun _ htag => (Scope.linesOf_sortLines lines htag).symm) settings
  · rw [title, title, firstValues?_congr Tag.isWord_title h]
  · rw [enforcement, enforcement, firstValues?_congr Tag.isWord_enforcement h]
  · rw [Scope.result_ofLines, endWith_eq_ok_iff] at h
    obtain ⟨hfault, rfl⟩ := h
    exact Scope.isEmpty_gather_iff hfault

/-- Blank lines, tags that are spelled otherwise and tags inside a line do not count, and the families may
be mixed at will. A bare title that comes first decides over the title after it. -/
theorem linesOf_decide_of_mixed_lines :
    (Scope.ofLines .standard
        ["@matchlabels a=b", "", "see @kinds Pod", "@kinds Pod", "@kindsPod"]).result =
      (Scope.ofLines .standard ["@title t", "@kinds Pod", "@matchLabels c", "@matchlabels a=b"]).result ∧
    (ofLines ["@kinds", "@title", "@titles", "@title a"]).title =
      (ofLines ["@title", "@title a", "@enforcement"]).title ∧
    (ofLines ["@enforcement warn", "@title"]).enforcement = (ofLines ["@enforcement warn"]).enforcement ∧
    ∃ scope, (Scope.ofLines .standard ["@kindsPod", "see @kinds Pod"]).result = .ok scope ∧
      scope.isEmpty = true := by
  obtain ⟨hscope, -, htitle, henforcement, hempty⟩ := linesOf_decide
  have hread : (Scope.ofLines .standard ["@kindsPod", "see @kinds Pod"]).result = .ok .empty := rfl
  exact ⟨hscope _ _ _ (by decide), htitle _ _ (by decide), henforcement _ _ (by decide), _, hread,
    (hempty _ _ _ hread).2 (by decide)⟩

end Header

end PolicyHeader
