import PolicyHeader.Proofs.Scope.Families
import PolicyHeader.Proofs.Scope.Faults

/-!
# One label policy by the other

A policy that admits labels without values reads a header as the rejecting policy reads it after an equals
sign is written behind each such label (`Labels.spellOut`).

The two policies are also compared on one and the same header. A rejecting run is the admitting run, or it
is that run cut short at a label without a value (`Run.CutShort`). One step keeps this relation and so does
a whole reading, hence the notices of the rejecting run come first among those of the other.
-/

namespace PolicyHeader

/-! ## Labels spelled out -/

namespace Labels

/-- A word of a label line with a value, which is empty if the word has none. -/
def withValue (word : String) : String :=
  if '=' ∈ word.toList then word else word ++ "="

/-- A label line in which each word has a value. Other lines stay as they are. -/
def spellOutLine (line : String) : String :=
  match Tag.wordsAfter? Tag.labels line with
  | some (word :: rest) => Tag.labels ++ " " ++ " ".intercalate ((word :: rest).map withValue)
  | _ => line

/-- Header lines in which each label has a value. -/
def spellOut (lines : List String) : List String :=
  lines.map spellOutLine

theorem isWord_withValue {word : String} (h : Text.IsWord word) : Text.IsWord (withValue word) := by
  rw [withValue]
  split
  · exact h
  · exact h.append_left (by decide)

/-- The label that a word gives does not hang on whether its empty value is written. -/
theorem entryOf_withValue (word : String) : entryOf (withValue word) = entryOf word := by
  rw [withValue]
  split
  · rfl
  · next hmem =>
    have hcut : Text.cutText? '=' (word ++ "=") = some (word, "") :=
      Text.cutText?_eq_some_iff.2 ⟨hmem, by simp⟩
    rw [entryOf, entryOf, hcut, Text.cutText?_eq_none_iff.2 hmem]
    rfl

/-- A word with its value written is rejected only if it is no label under either policy. -/
theorem isMalformed_withValue {word : String} (h : Text.IsWord word) :
    isMalformed .reject (withValue word) = isMalformed .emptyValue word := by
  rw [withValue]
  split
  · next hmem => simp [isMalformed, hmem]
  · next hmem =>
    have hcut : Text.cutText? '=' (word ++ "=") = some (word, "") :=
      Text.cutText?_eq_some_iff.2 ⟨hmem, by simp⟩
    rw [isMalformed_of_cut .reject hcut, isMalformed_of_whole .emptyValue hmem]
    simp [h.ne_empty]

theorem equals_mem_of_isMalformed {word : String} (h : isMalformed .emptyValue word = true) :
    '=' ∈ word.toList := by
  by_contra hmem
  rw [isMalformed_of_whole .emptyValue hmem] at h
  cases h

/-- The first word that is no label stays as it is, since it has an equals sign. -/
theorem find?_map_withValue {words : List String} (h : ∀ word ∈ words, Text.IsWord word) :
    (words.map withValue).find? (isMalformed .reject) = words.find? (isMalformed .emptyValue) := by
  induction words with
  | nil => rfl
  | cons word rest ih =>
    have hword := isMalformed_withValue (h word List.mem_cons_self)
    have hrest := ih fun other hother => h other (List.mem_cons_of_mem _ hother)
    rw [List.map_cons]
    cases hmalformed : isMalformed .emptyValue word with
    | true =>
      have hsame : withValue word = word := if_pos (equals_mem_of_isMalformed hmalformed)
      rw [hsame] at hword ⊢
      rw [List.find?_cons_of_pos (hword.trans hmalformed), List.find?_cons_of_pos hmalformed]
    | false =>
      rw [List.find?_cons_of_neg (by simp [hword, hmalformed]),
        List.find?_cons_of_neg (by simp [hmalformed]), hrest]

theorem fault?_map_withValue {words : List String} (h : ∀ word ∈ words, Text.IsWord word)
    (line line' : String) :
    fault? .reject line (words.map withValue) = fault? .emptyValue line' words := by
  rw [fault?, fault?, find?_map_withValue h, List.isEmpty_map]

/-! ## Lines spelled out -/

theorem wordsAfter?_spellOutLine (line : String) :
    Tag.wordsAfter? Tag.labels (spellOutLine line) =
      (Tag.wordsAfter? Tag.labels line).map (List.map withValue) := by
  rw [spellOutLine]
  split
  · next word rest hwords =>
    have hisWord : ∀ w ∈ (word :: rest).map withValue, Text.IsWord w := by
      intro w hw
      obtain ⟨found, hfound, rfl⟩ := List.mem_map.1 hw
      exact isWord_withValue (Tag.isWord_of_mem_wordsAfter? hwords hfound)
    rw [Tag.wordsAfter?_line Tag.isWord_labels, if_pos rfl, Text.wordsOf_intercalate hisWord, hwords]
    rfl
  · next hwords =>
    cases hline : Tag.wordsAfter? Tag.labels line with
    | none => rfl
    | some words =>
      cases words with
      | nil => rfl
      | cons word rest => exact absurd hline (hwords word rest)

example : spellOut ["@matchlabels a  b=c", "@matchlabels", "@kinds a"] =
    ["@matchlabels a= b=c", "@matchlabels", "@kinds a"] := by
  decide

/-- A line that changes is a label line before and after. -/
theorem spellOutLine_eq_or (line : String) :
    spellOutLine line = line ∨
      Tag.carries Tag.labels line = true ∧ Tag.carries Tag.labels (spellOutLine line) = true := by
  cases hcarries : Tag.carries Tag.labels line with
  | false =>
    refine .inl ?_
    rw [spellOutLine, Tag.wordsAfter?_eq_none_iff.2 hcarries]
  | true =>
    refine .inr ⟨rfl, ?_⟩
    rw [Tag.carries_eq_isSome] at hcarries ⊢
    rw [wordsAfter?_spellOutLine, Option.isSome_map, hcarries]

theorem linesOf_spellOut {tag : String} (hne : tag ≠ Tag.labels) (lines : List String) :
    Tag.linesOf tag (spellOut lines) = Tag.linesOf tag lines := by
  have hother : ∀ line, Tag.carries Tag.labels line = true → Tag.carries tag line = false :=
    fun line hline => by
      cases htag : Tag.carries tag line with
      | false => rfl
      | true => exact absurd (Tag.eq_of_carries htag hline) hne
  rw [Tag.linesOf, Tag.linesOf, spellOut]
  induction lines with
  | nil => rfl
  | cons line rest ih =>
    rw [List.map_cons]
    rcases spellOutLine_eq_or line with hsame | ⟨hline, hspelled⟩
    · rw [hsame, List.filter_cons, List.filter_cons, ih]
    · rw [List.filter_cons_of_neg (by simp [hother _ hspelled]),
        List.filter_cons_of_neg (by simp [hother _ hline]), ih]

theorem taggedWords_spellOut (lines : List String) :
    taggedWords Tag.labels (spellOut lines) =
      (taggedWords Tag.labels lines).map (List.map withValue) := by
  rw [taggedWords, spellOut, List.filterMap_map, taggedWords, List.map_filterMap]
  refine List.filterMap_congr fun line _ => ?_
  rw [Function.comp_apply, wordsAfter?_spellOutLine]

theorem firstFault?_spellOut (lines : List String) :
    firstFault? Tag.labels (fault? .reject) (spellOut lines) =
      firstFault? Tag.labels (fault? .emptyValue) lines := by
  rw [firstFault?, firstFault?, spellOut, List.findSome?_map]
  refine congrArg (fun fault? => lines.findSome? fault?) (funext fun line => ?_)
  rw [Function.comp_apply, wordsAfter?_spellOutLine, Option.bind_map]
  cases hwords : Tag.wordsAfter? Tag.labels line with
  | none => rfl
  | some words =>
    have hisWord : ∀ word ∈ words, Text.IsWord word :=
      fun word hword => Tag.isWord_of_mem_wordsAfter? hwords hword
    exact fault?_map_withValue hisWord (spellOutLine line) line

end Labels

namespace Scope

theorem fault?_spellOut (lines : List String) :
    fault? .reject (Labels.spellOut lines) = fault? .emptyValue lines := by
  have hother : ∀ tag fault?, tag ≠ Tag.labels →
      firstFault? tag fault? (Labels.spellOut lines) = firstFault? tag fault? lines :=
    fun tag fault? hne => by
      rw [← firstFault?_linesOf, Labels.linesOf_spellOut hne, firstFault?_linesOf]
  rw [fault?, fault?, Labels.firstFault?_spellOut, hother _ _ (by decide), hother _ _ (by decide)]

theorem gather_spellOut (lines : List String) :
    gather (Labels.spellOut lines) = gather lines := by
  have hother : ∀ tag, tag ≠ Tag.labels →
      taggedWords tag (Labels.spellOut lines) = taggedWords tag lines := fun tag hne => by
    rw [← taggedWords_linesOf, Labels.linesOf_spellOut hne, taggedWords_linesOf]
  have hentries : (taggedWords Tag.labels (Labels.spellOut lines)).flatten.map Labels.entryOf =
      (taggedWords Tag.labels lines).flatten.map Labels.entryOf := by
    rw [Labels.taggedWords_spellOut, ← List.map_flatten, List.map_map]
    exact List.map_congr_left fun word _ => Labels.entryOf_withValue word
  rw [gather, gather, hentries, hother _ (by decide), hother _ (by decide)]

end Scope

/-! ## Runs that are cut short -/

namespace Run

variable {α β : Type}

/-- The first run is the second, or it is the second cut short: it ends with a label that has no value,
and its notices come first among those of the second. -/
def CutShort (strict lax : Run α) : Prop :=
  strict = lax ∨ ∃ word, '=' ∉ word.toList ∧ strict.result = .error (.malformedLabel word) ∧
    strict.notices <+: lax.notices

theorem CutShort.refl (run : Run α) : CutShort run run :=
  .inl rfl

theorem CutShort.bind {strict lax : Run α} {next next' : α → Run β} (h : CutShort strict lax)
    (hnext : ∀ a, CutShort (next a) (next' a)) : CutShort (strict >>= next) (lax >>= next') := by
  rcases h with rfl | ⟨word, hword, hresult, hnotices⟩
  · rw [bind_eq, bind_eq]
    cases strict.result with
    | error error => exact .refl _
    | ok a =>
      rcases hnext a with heq | ⟨word, hword, hresult, hnotices⟩
      · simp only [heq]
        exact .refl _
      · -- both have made the notices of the first part
        exact .inr ⟨word, hword, hresult, (List.prefix_append_right_inj _).2 hnotices⟩
  · refine .inr ⟨word, hword, ?_, ?_⟩
    · rw [bind_eq, hresult]
    · rw [bind_eq, bind_eq, hresult]
      cases lax.result with
      | error error => exact hnotices
      | ok a => exact hnotices.trans (List.prefix_append _ _)

theorem CutShort.notices {strict lax : Run α} (h : CutShort strict lax) :
    strict.notices <+: lax.notices := by
  rcases h with rfl | ⟨_, -, -, hnotices⟩
  · exact List.prefix_rfl
  · exact hnotices

/-- Families of one tag that add related things to what they found read related runs. -/
theorem CutShort.readFrom (strict lax : Family α) (htag : strict.tag = lax.tag)
    (hadd : ∀ line words found, CutShort (strict.add line words found) (lax.add line words found))
    (found : α) (lines : List String) :
    CutShort (strict.readFrom found lines) (lax.readFrom found lines) := by
  induction lines generalizing found with
  | nil => exact .refl _
  | cons line rest ih =>
    rw [Family.readFrom, Family.readFrom, htag]
    cases Tag.values? lax.tag line with
    | none => exact (CutShort.refl _).bind fun _ => ih found
    | some words => exact (hadd line words found).bind fun found => ih found

end Run

namespace Labels

/-- Words give the same labels under both policies, up to a word without a value. -/
theorem cutShort_insertWords (labels : Labels) (words : List String) :
    Run.CutShort (Run.ofExcept (labels.insertWords .reject words))
      (Run.ofExcept (labels.insertWords .emptyValue words)) := by
  induction words generalizing labels with
  | nil => exact .refl _
  | cons word rest ih =>
    rw [insertWords, insertWords]
    cases hcut : Text.cutText? '=' word with
    | none =>
      -- here the rejecting policy ends, whatever comes of the other
      refine .inr ⟨word, Text.cutText?_eq_none_iff.1 hcut, ?_, List.prefix_rfl⟩
      simp only [entryOfWord, hcut, Run.ofExcept]
    | some parts =>
      have hsame : entryOfWord .reject word = entryOfWord .emptyValue word := by
        rw [entryOfWord, entryOfWord, hcut]
      rw [hsame]
      cases entryOfWord .emptyValue word with
      | error error => exact .refl _
      | ok entry => exact ih (labels.insert entry.1 entry.2)

theorem cutShort_add (line : String) (words : List String) (found : Labels) :
    Run.CutShort ((family .reject).add line words found)
      ((family .emptyValue).add line words found) := by
  cases words with
  | nil => exact .refl _
  | cons word rest =>
    exact (Run.CutShort.refl (Run.note (.tagged Tag.labels (word :: rest)))).bind
      fun _ => cutShort_insertWords found (word :: rest)

end Labels

namespace Scope

theorem cutShort_ofLines (lines : List String) :
    Run.CutShort (ofLines ⟨.reject⟩ lines) (ofLines ⟨.emptyValue⟩ lines) := by
  refine (Run.CutShort.refl (Kinds.family.read lines)).bind fun kinds => ?_
  have hlabels : Run.CutShort ((Labels.family .reject).readFrom .empty lines)
      ((Labels.family .emptyValue).readFrom .empty lines) :=
    Run.CutShort.readFrom (Labels.family .reject) (Labels.family .emptyValue) rfl
      Labels.cutShort_add Labels.empty lines
  exact hlabels.bind fun labels => .refl _

/-- **Admitting labels without values is rejecting them after they are spelled out.** The admitting policy
comes to what the rejecting policy comes to after an equals sign is written behind each label without a
value, with the same error if there is one. On one and the same header the two policies come to the same
unless the rejecting one ends with a label that has no equals sign, and the notices of the rejecting
policy come first among those of the other. -/
theorem result_ofLines_spellOut :
    (∀ lines : List String,
      (ofLines ⟨.emptyValue⟩ lines).result = (ofLines ⟨.reject⟩ (Labels.spellOut lines)).result) ∧
    (∀ lines : List String,
      (ofLines ⟨.reject⟩ lines).result = (ofLines ⟨.emptyValue⟩ lines).result ↔
        ¬ ∃ word, '=' ∉ word.toList ∧
          (ofLines ⟨.reject⟩ lines).result = .error (.malformedLabel word)) ∧
    (∀ lines : List String,
      (ofLines ⟨.reject⟩ lines).notices <+: (ofLines ⟨.emptyValue⟩ lines).notices) := by
  refine ⟨fun lines => ?_, fun lines => ⟨fun hsame => ?_, fun hno => ?_⟩, fun lines => ?_⟩
  · rw [result_ofLines, result_ofLines, fault?_spellOut, gather_spellOut]
  · rintro ⟨word, hword, hreject⟩
    -- the admitting policy ends with a label only if it has an equals sign
    rw [hsame, result_ofLines, endWith_eq_error_iff] at hreject
    exact hword (Labels.equals_mem_of_isMalformed (isMalformed_of_fault? hreject).2)
  · rcases cutShort_ofLines lines with heq | ⟨word, hword, hresult, -⟩
    · rw [heq]
    · exact absurd ⟨word, hword, hresult⟩ hno
  · exact (cutShort_ofLines lines).notices

end Scope

end PolicyHeader
