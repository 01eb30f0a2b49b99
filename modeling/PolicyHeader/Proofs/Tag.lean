import PolicyHeader.Proofs.Text.Spacing
import PolicyHeader.Tag
import Mathlib.Data.List.Basic

/-!
# Tagged lines as lists of words

A line carries a tag if its first word is the tag, and the values are the words after it. So reading a
tagged line is cutting it into words (`values?_eq_wordsAfter?`). Where a line has to carry the tag and a
value, the words of the line settle the answer, and the blanks between them are of no account
(`values_of_words`).
-/

namespace PolicyHeader.Tag

open Text (AllBlank IsWord SpacesOut Unbroken isBlank spaced words trimStart wordsOf)

/-- The words after the first one, if the first one is the tag. -/
def wordsAfter? (tag line : String) : Option (List String) :=
  match wordsOf line with
  | [] => none
  | first :: rest => if first = tag then some rest else none

theorem wordsAfter?_eq_some_iff {tag line : String} {ws : List String} :
    wordsAfter? tag line = some ws ↔ wordsOf line = tag :: ws := by
  rw [wordsAfter?]
  cases wordsOf line with
  | nil => simp
  | cons first rest => simp

theorem isWord_of_mem_wordsAfter? {tag line w : String} {ws : List String}
    (h : wordsAfter? tag line = some ws) (hw : w ∈ ws) : IsWord w := by
  refine Text.isWord_of_mem_wordsOf (s := line) ?_
  rw [wordsAfter?_eq_some_iff.1 h]
  exact List.mem_cons_of_mem _ hw

/-- A line that is written with a tag gives the words after the tag, and to no other tag. -/
theorem wordsAfter?_line {tag other : String} (htag : IsWord tag) (text : String) :
    wordsAfter? other (tag ++ " " ++ text) = if tag = other then some (wordsOf text) else none := by
  rw [wordsAfter?, Text.wordsOf_append_space, Text.wordsOf_of_isWord htag, List.singleton_append]

/-! ## The text after a tag -/

/-- What follows the tag is nothing, or opens with a blank. -/
theorem rest?_eq_some_iff {tag line rest : List Char} (htag : tag ≠ []) :
    rest? tag line = some rest ↔
      trimStart line = tag ++ rest ∧ ∀ c ∈ rest.head?, isBlank c = true := by
  have hopens : ∀ rest', tag.isPrefixOf? (trimStart line) = some rest' ↔
      trimStart line = tag ++ rest' := fun rest' => by
    rw [List.isPrefixOf?_eq_some_iff_append_eq, eq_comm]
  rw [rest?, if_neg (by simpa using htag)]
  cases hcut : tag.isPrefixOf? (trimStart line) with
  | none =>
    have hno : ¬ trimStart line = tag ++ rest := fun h => by
      rw [(hopens rest).2 h] at hcut
      cases hcut
    simp [hno]
  | some rest' =>
    have hline := (hopens rest').1 hcut
    rw [hline, List.append_cancel_left_eq]
    cases rest' with
    | nil =>
      simp only [Option.some.injEq]
      constructor
      · rintro rfl
        simp
      · exact fun h => h.1
    | cons c rest' =>
      by_cases hc : isBlank c = true
      · simp only [hc, if_true, Option.some.injEq]
        constructor
        · rintro rfl
          simpa using hc
        · exact fun h => h.1
      · simp only [hc, if_false, Bool.false_eq_true]
        constructor
        · intro h
          cases h
        · rintro ⟨rfl, h⟩
          exact absurd (h c rfl) hc

/-- The text after a tag holds the words after the tag. -/
theorem map_words_rest? {tag : List Char} (line : List Char) (hne : tag ≠ [])
    (hword : ∀ c ∈ tag, isBlank c = false) (ws : List (List Char)) :
    (rest? tag line).map words = some ws ↔ words line = tag :: ws := by
  rw [Option.map_eq_some_iff]
  constructor
  · rintro ⟨rest, hrest, rfl⟩
    obtain ⟨hline, hblank⟩ := (rest?_eq_some_iff hne).1 hrest
    rw [← Text.words_trimStart, hline, Text.words_append_of_isWord hne hword hblank]
  · intro h
    rw [← Text.words_trimStart] at h
    cases hline : trimStart line with
    | nil => simp [hline] at h
    | cons c cs =>
      have hc : isBlank c = false :=
        Text.not_of_mem_head?_dropWhile c (hline ▸ rfl : c ∈ (trimStart line).head?)
      obtain ⟨w, rest, hcut, hblank, hwords⟩ := Text.exists_words_eq_cons cs hc
      rw [hline, hwords, List.cons.injEq] at h
      obtain ⟨rfl, rfl⟩ := h
      exact ⟨rest, (rest?_eq_some_iff hne).2 ⟨hline.trans hcut, hblank⟩, rfl⟩

/-! ## The values of a line -/

theorem values?_eq_some_iff {tag line : String} (htag : IsWord tag) {ws : List String} :
    values? tag line = some ws ↔ wordsOf line = tag :: ws := by
  have hne : tag.toList ≠ [] := fun h => htag.ne_empty (String.toList_eq_nil_iff.1 h)
  have hwords := map_words_rest? line.toList hne htag.unbroken
  have hvalues : values? tag line =
      ((rest? tag.toList line.toList).map words).map (·.map String.ofList) := by
    rw [values?, Option.map_map]
    rfl
  rw [hvalues, Option.map_eq_some_iff, wordsOf]
  constructor
  · rintro ⟨cs, hcs, rfl⟩
    rw [(hwords cs).1 hcs, List.map_cons, String.ofList_toList]
  · intro h
    cases hline : words line.toList with
    | nil => simp [hline] at h
    | cons w rest =>
      rw [hline, List.map_cons, List.cons.injEq] at h
      obtain ⟨hw, hrest⟩ := h
      have htoList : tag.toList = w := by rw [← hw, String.toList_ofList]
      exact ⟨rest, (hwords rest).2 (htoList ▸ hline), hrest⟩

/-- Reading a line that may carry a tag is cutting it into words. -/
theorem values?_eq_wordsAfter? {tag : String} (htag : IsWord tag) (line : String) :
    values? tag line = wordsAfter? tag line := by
  ext ws
  rw [values?_eq_some_iff htag, wordsAfter?_eq_some_iff]

/-! ## The tags of a scope -/

theorem isWord_kinds : IsWord kinds := by
  decide

theorem isWord_labels : IsWord labels := by
  decide

theorem isWord_requirement : IsWord requirement := by
  decide

/-! ## Lines that have to carry a tag -/

section values

variable {tag : String} (htag : IsWord tag)
include htag

/-- The first word of a line is not the tag, or it is the only word, or others follow it. -/
theorem values_cases (line : String) :
    ((wordsOf line).head? ≠ some tag ∧ values tag line = .error (.tagMismatch tag)) ∨
      (wordsOf line = [tag] ∧ values tag line = .error (.noValues tag)) ∨
      ∃ v vs, wordsOf line = tag :: v :: vs ∧ values tag line = .ok (v :: vs) := by
  rw [values, values?_eq_wordsAfter? htag, wordsAfter?]
  cases wordsOf line with
  | nil => exact .inl ⟨by simp, rfl⟩
  | cons first rest =>
    by_cases hfirst : first = tag
    · subst hfirst
      cases rest with
      | nil => exact .inr (.inl ⟨rfl, by simp⟩)
      | cons v vs => exact .inr (.inr ⟨v, vs, rfl, by simp⟩)
    · exact .inl ⟨by simp [hfirst], by simp [hfirst]⟩

theorem values_eq_tagMismatch_iff {line : String} :
    values tag line = .error (.tagMismatch tag) ↔ (wordsOf line).head? ≠ some tag := by
  rcases values_cases htag line with ⟨hwords, h⟩ | ⟨hwords, h⟩ | ⟨v, vs, hwords, h⟩ <;>
    simp [hwords, h]

theorem values_eq_noValues_iff {line : String} :
    values tag line = .error (.noValues tag) ↔ wordsOf line = [tag] := by
  rcases values_cases htag line with ⟨hwords, h⟩ | ⟨hwords, h⟩ | ⟨v, vs, hwords, h⟩
  · have hne : wordsOf line ≠ [tag] := fun he => hwords (he ▸ rfl)
    simp [hne, h]
  · simp [hwords, h]
  · simp [hwords, h]

theorem values_eq_ok_iff {line : String} {ws : List String} :
    values tag line = .ok ws ↔ ws ≠ [] ∧ wordsOf line = tag :: ws := by
  rcases values_cases htag line with ⟨hwords, h⟩ | ⟨hwords, h⟩ | ⟨v, vs, hwords, h⟩
  · have hne : wordsOf line ≠ tag :: ws := fun he => hwords (he ▸ rfl)
    simp [hne, h]
  · rw [hwords, h]
    simp [eq_comm]
  · rw [hwords, h]
    simp only [Except.ok.injEq, List.cons.injEq, true_and]
    constructor
    · rintro rfl
      exact ⟨List.cons_ne_nil _ _, rfl⟩
    · exact fun hws => hws.2

end values

/-- No line carries the empty tag, or a tag that opens with a blank: blanks in front of a line are not
looked at. -/
theorem values_of_opens_blank {tag : String} (h : tag = "" ∨ ∃ c ∈ tag.toList.head?, isBlank c = true)
    (line : String) : values tag line = .error (.tagMismatch tag) := by
  have hrest : rest? tag.toList line.toList = none := by
    rcases h with rfl | ⟨b, hb, hblank⟩
    · rfl
    · have hne : tag.toList ≠ [] := by
        intro he
        rw [he] at hb
        cases hb
      rw [Option.eq_none_iff_forall_ne_some]
      intro rest hrest
      obtain ⟨hline, -⟩ := (rest?_eq_some_iff hne).1 hrest
      have hhead : b ∈ (trimStart line.toList).head? := by
        rwa [hline, List.head?_append_of_ne_nil _ hne]
      rw [Text.not_of_mem_head?_dropWhile b hhead] at hblank
      cases hblank
  rw [values, values?, hrest]
  rfl

/-- **A tagged line is read word by word.** Every text has its words, and with a word for a tag they settle
what a line gives: a mismatch if the first one is not the tag, no values if it is the only one, and the
others if there are some. A tag that is empty or opens with a blank is on no line, and no line has two tags
without blanks. A tag and words come back from every line that they are written on, whatever the blanks in
front, between and behind. -/
theorem values_of_words :
    (∀ line, ∃ ws, ∀ other, SpacesOut other line ↔ other = ws) ∧
    (∀ tag line ws, IsWord tag → SpacesOut ws line →
      (values tag line = .error (.tagMismatch tag) ↔ ws.head? ≠ some tag) ∧
      (values tag line = .error (.noValues tag) ↔ ws = [tag]) ∧
      ∀ vs, values tag line = .ok vs ↔ vs ≠ [] ∧ ws = tag :: vs) ∧
    (∀ tag line, (tag = "" ∨ ∃ c ∈ tag.toList.head?, isBlank c = true) →
      values tag line = .error (.tagMismatch tag)) ∧
    (∀ tag other line, Unbroken tag → Unbroken other →
      values tag line ≠ .error (.tagMismatch tag) → values other line ≠ .error (.tagMismatch other) →
        tag = other) ∧
    (∀ tag before gap parts, IsWord tag → AllBlank before → AllBlank gap → gap ≠ "" → parts ≠ [] →
      (∀ part ∈ parts, IsWord part.1 ∧ AllBlank part.2) → (∀ part ∈ parts.dropLast, part.2 ≠ "") →
        values tag (spaced before ((tag, gap) :: parts)) = .ok (parts.map Prod.fst)) := by
  refine ⟨fun line => ⟨wordsOf line, fun other => ?_⟩, fun tag line ws htag hws => ?_,
    fun tag line h => values_of_opens_blank h line, fun tag other line htag hother h h' => ?_,
    fun tag before gap parts htag hbefore hgap hne hparts hwords hgaps => ?_⟩
  · rw [Text.spacesOut_iff, eq_comm]
  · obtain rfl := hws.wordsOf_eq
    exact ⟨values_eq_tagMismatch_iff htag, values_eq_noValues_iff htag, fun vs => values_eq_ok_iff htag⟩
  · have hfirst : ∀ {tag}, Unbroken tag → values tag line ≠ .error (.tagMismatch tag) →
        (wordsOf line).head? = some tag := by
      intro tag htag h
      have hne : tag ≠ "" := fun he => h (values_of_opens_blank (.inl he) line)
      exact Decidable.byContradiction fun hhead => h ((values_eq_tagMismatch_iff ⟨hne, htag⟩).2 hhead)
    exact Option.some.inj ((hfirst htag h).symm.trans (hfirst hother h'))
  · obtain ⟨part, rest, rfl⟩ := List.exists_cons_of_ne_nil hparts
    refine (values_eq_ok_iff htag).2 ⟨by simp, ?_⟩
    refine (Text.spacesOut_spaced hbefore (List.forall_mem_cons.2 ⟨⟨htag, hgap⟩, hwords⟩) ?_).wordsOf_eq
    rw [List.dropLast_cons_cons]
    exact List.forall_mem_cons.2 ⟨hne, hgaps⟩

/-- A line with blanks of many kinds, beside near misses of its tag. -/
theorem values_of_words_of_oddBlanks :
    values "@kinds" "\u2003@kinds\tPod\u00a0\n apps/Job\u3000" = .ok ["Pod", "apps/Job"] ∧
    values "@kind" "\u2003@kinds\tPod\u00a0\n apps/Job\u3000" = .error (.tagMismatch "@kind") ∧
    values "@kinds" " @kinds\u2028" = .error (.noValues "@kinds") ∧
    values " @kinds" " @kinds Pod" = .error (.tagMismatch " @kinds") := by
  obtain ⟨-, hwords, hbad, hone, hspaced⟩ := values_of_words
  have hline : values "@kinds" "\u2003@kinds\tPod\u00a0\n apps/Job\u3000" = .ok ["Pod", "apps/Job"] :=
    hspaced "@kinds" "\u2003" "\t" [("Pod", "\u00a0\n "), ("apps/Job", "\u3000")] (by decide) (by decide)
      (by decide) (by decide) (by decide) (by decide) (by decide)
  refine ⟨hline, ?_, ?_, hbad _ _ (.inr ⟨' ', rfl, by decide⟩)⟩
  · refine Decidable.byContradiction fun hkind => absurd (hone "@kind" "@kinds" _ ?_ ?_ hkind ?_) ?_
    · decide
    · decide
    · rw [hline]
      exact fun h => by cases h
    · decide
  · have hbare : SpacesOut ["@kinds"] " @kinds\u2028" := Text.spacesOut_iff.2 (by decide +kernel)
    exact (hwords _ _ _ (by decide) hbare).2.1.2 rfl

end PolicyHeader.Tag
