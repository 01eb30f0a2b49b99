import PolicyHeader.Proofs.Scope.Canonical

/-!
# The last word gives the value

A word gives a label by its first equals sign (`Labels.Gives`). Of all words that give a label of one key,
the last one in the header decides, be it on the same line or a later one, and be it a key without a value
(`Labels.get?_of_read`). So the labels are no more and no less than what the words give.
-/

namespace PolicyHeader.Labels

open Text (IsWord Unbroken)

/-- The key stands before the first equals sign of a word, and a word without one is a key whose value is
empty. -/
inductive Gives : String → String → String → Prop
  | keyed {key : String} (value : String) (h : '=' ∉ key.toList) : Gives (key ++ "=" ++ value) key value
  | whole {word : String} (h : '=' ∉ word.toList) : Gives word word ""

theorem gives_iff {word key value : String} : Gives word key value ↔ entryOf word = (key, value) := by
  have hcut : ∀ {key value : String}, Text.cutText? '=' word = some (key, value) ↔
      '=' ∉ key.toList ∧ word = key ++ "=" ++ value :=
    Text.cutText?_eq_some_iff_append "=" rfl
  constructor
  · intro h
    cases h with
    | keyed value h => simp [entryOf, hcut.2 ⟨h, rfl⟩]
    | whole h => simp [entryOf, Text.cutText?_eq_none_iff.2 h]
  · unfold entryOf
    cases hparts : Text.cutText? '=' word with
    | none =>
      rintro ⟨⟩
      exact .whole (Text.cutText?_eq_none_iff.1 hparts)
    | some parts =>
      rintro rfl
      obtain ⟨hkey, rfl⟩ := hcut.1 hparts
      exact .keyed value hkey

/-- No word after the one that gives the label gives another of the same key. -/
def LastGives (words : List String) (key value : String) : Prop :=
  ∃ before word after, words = before ++ word :: after ∧ Gives word key value ∧
    ∀ later ∈ after, ∀ other, ¬ Gives later key other

/-! ## Giving labels one after another -/

theorem lookup_reverse_eq_some_iff {entries : List (String × String)} {key value : String} :
    entries.reverse.lookup key = some value ↔
      ∃ before after, entries = before ++ (key, value) :: after ∧ ∀ entry ∈ after, entry.1 ≠ key := by
  rw [List.lookup_eq_some_iff]
  constructor
  · rintro ⟨later, before, hentries, hlater⟩
    refine ⟨before.reverse, later.reverse, ?_, ?_⟩
    · rw [← List.reverse_inj, hentries]
      simp
    · intro entry hentry heq
      simpa [heq] using hlater entry (List.mem_reverse.1 hentry)
  · rintro ⟨before, after, rfl, hafter⟩
    refine ⟨after.reverse, before.reverse, by simp, ?_⟩
    intro entry hentry
    simpa [bne_iff_ne] using (hafter entry (List.mem_reverse.1 hentry)).symm

theorem get?_insertAll_eq_some_iff {words : List String} {key value : String} :
    (empty.insertAll (words.map entryOf)).get? key = some value ↔ LastGives words key value := by
  have hkey : ∀ {word : String}, (∀ other, ¬ Gives word key other) ↔ (entryOf word).1 ≠ key := by
    intro word
    simp [gives_iff, Prod.ext_iff]
  rw [get?_insertAll, get?_empty, Option.or_none, lookup_reverse_eq_some_iff]
  constructor
  · rintro ⟨before, after, hwords, hafter⟩
    obtain ⟨front, back, rfl, -, hback⟩ := List.map_eq_append_iff.1 hwords
    obtain ⟨word, later, rfl, hword, rfl⟩ := List.map_eq_cons_iff.1 hback
    refine ⟨front, word, later, rfl, gives_iff.2 hword, fun other hother => hkey.2 ?_⟩
    exact hafter _ (List.mem_map_of_mem hother)
  · rintro ⟨before, word, after, rfl, hword, hafter⟩
    refine ⟨before.map entryOf, after.map entryOf, by simp [gives_iff.1 hword], ?_⟩
    intro entry hentry
    obtain ⟨later, hlater, rfl⟩ := List.mem_map.1 hentry
    exact hkey.1 (hafter later hlater)

/-- Where some word gives a key, some word is the last to give it. -/
theorem exists_lastGives_iff {words : List String} {key : String} :
    (∃ value, LastGives words key value) ↔ ∃ word ∈ words, ∃ value, Gives word key value := by
  constructor
  · rintro ⟨value, before, word, after, rfl, hword, -⟩
    exact ⟨word, by simp, value, hword⟩
  · rintro ⟨word, hmem, value, hword⟩
    by_contra hnone
    have hget : (empty.insertAll (words.map entryOf)).get? key = none := by
      rw [Option.eq_none_iff_forall_ne_some]
      intro value hvalue
      exact hnone ⟨value, get?_insertAll_eq_some_iff.1 hvalue⟩
    rw [get?_insertAll, get?_empty, Option.or_none, List.lookup_eq_none_iff] at hget
    have hentry : (key, value) ∈ (words.map entryOf).reverse :=
      List.mem_reverse.2 (List.mem_map.2 ⟨word, hmem, gives_iff.1 hword⟩)
    simpa using hget _ hentry

/-! ## Reading labels -/

/-- **The last word gives the value.** Where the lines of labels come to some labels, a key has a value
exactly if the last word that gives the key gives this value, and every key that some word gives has one.
The labels are these keys with their values. A key is a word without an equals sign, and no value holds a
blank. -/
theorem get?_of_read {policy : LabelPolicy} {lines : List String} {labels : Labels}
    (h : ((family policy).read lines).result = .ok labels) :
    (∀ key value, labels.get? key = some value ↔
      LastGives (taggedWords Tag.labels lines).flatten key value) ∧
    (∀ key, (∃ value, labels.get? key = some value) ↔
      ∃ word ∈ (taggedWords Tag.labels lines).flatten, ∃ value, Gives word key value) ∧
    (∀ key value, (key, value) ∈ labels.entries ↔ labels.get? key = some value) ∧
    ∀ entry ∈ labels.entries, IsWord entry.1 ∧ '=' ∉ entry.1.toList ∧ Unbroken entry.2 := by
  rw [Scope.result_read_labels, endWith_eq_ok_iff] at h
  obtain ⟨hfault, rfl⟩ := h
  refine ⟨fun key value => get?_insertAll_eq_some_iff, fun key => ?_,
    fun key value => (get?_eq_some_iff _).symm, fun entry hentry => ?_⟩
  · rw [← exists_lastGives_iff]
    exact exists_congr fun value => get?_insertAll_eq_some_iff
  · obtain ⟨hkey, hequals, hvalue⟩ := Scope.labels_gather_canonical hfault entry hentry
    exact ⟨hkey, hequals, hvalue⟩

/-- A bare key on a later line takes the value away again, and a value keeps its equals signs. -/
def repeatedKeys : List String :=
  ["@matchlabels team=a q=a team=b", "@kinds team=c", "@matchlabels q=a=b team"]

theorem get?_of_read_repeatedKeys :
    ((family .emptyValue).read repeatedKeys).result = .ok ((empty.insert "team" "").insert "q" "a=b") ∧
    ((empty.insert "team" "").insert "q" "a=b").get? "team" = some "" ∧
    ((empty.insert "team" "").insert "q" "a=b").get? "q" = some "a=b" ∧
    IsWord "team" := by
  have hread : ((family .emptyValue).read repeatedKeys).result =
      .ok ((empty.insert "team" "").insert "q" "a=b") := by decide +kernel
  have hwords : (taggedWords Tag.labels repeatedKeys).flatten =
      ["team=a", "q=a", "team=b", "q=a=b", "team"] := by decide
  obtain ⟨hlast, -, hentries, hspelled⟩ := get?_of_read hread
  rw [hwords] at hlast
  have hteam := (hlast "team" "").2
    ⟨["team=a", "q=a", "team=b", "q=a=b"], "team", [], rfl, .whole (by decide), by simp⟩
  have hq := (hlast "q" "a=b").2
    ⟨["team=a", "q=a", "team=b"], "q=a=b", ["team"], rfl, gives_iff.2 (by decide), ?_⟩
  · exact ⟨hread, hteam, hq, (hspelled _ ((hentries "team" "").2 hteam)).1⟩
  · intro later hlater other hgives
    obtain rfl := List.mem_singleton.1 hlater
    have hkey : (entryOf "team").1 = "q" := congrArg Prod.fst (gives_iff.1 hgives)
    exact absurd hkey (by decide)

end PolicyHeader.Labels
