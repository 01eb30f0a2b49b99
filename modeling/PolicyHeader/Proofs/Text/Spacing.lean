import PolicyHeader.Proofs.Text.OneLine
import Mathlib.Data.List.Chain

/-!
# Words and the blanks around them

A text is its words in order, with blanks in front, between and behind. No blank stands in a word, and none
is missing between two words, so the words are settled by the text (`spacesOut_iff`), however many blanks of
whatever kind there are (`spacesOut_spaced`). A text is single-spaced if it has no more blanks than it needs
and they are plain spaces; such a text is its words joined by spaces (`singleSpaced_iff`).
-/

namespace PolicyHeader.Text

/-- A text of blanks alone, or the empty text. -/
def AllBlank (s : String) : Prop :=
  ∀ c ∈ s.toList, isBlank c = true

instance (s : String) : Decidable (AllBlank s) :=
  List.decidableBAll (fun c => isBlank c = true) s.toList

/-- A text that holds some words in order and blanks besides. What follows a word is a blank or nothing, so
the words are the longest runs without blanks. -/
inductive SpacesOut : List String → String → Prop
  | blanks {s : String} (h : AllBlank s) : SpacesOut [] s
  | word {before w text : String} {rest : List String} (hbefore : AllBlank before) (hw : IsWord w)
      (htext : ∀ c ∈ text.toList.head?, isBlank c = true) (h : SpacesOut rest text) :
      SpacesOut (w :: rest) (before ++ w ++ text)

/-- Words written with blanks of any kind: those in front, and behind each word those that are given
with it. -/
def spaced (before : String) : List (String × String) → String
  | [] => before
  | (w, gap) :: rest => before ++ w ++ spaced gap rest

/-! ## The words of a spaced text -/

theorem SpacesOut.wordsOf_eq {ws : List String} {s : String} (h : SpacesOut ws s) : wordsOf s = ws := by
  induction h with
  | @blanks s h =>
    have hwords := words_append_of_blank h []
    rw [List.append_nil, words_nil] at hwords
    rw [wordsOf, hwords, List.map_nil]
  | @word before w text rest hbefore hw htext _ ih =>
    have hne : w.toList ≠ [] := fun he => hw.ne_empty (String.toList_eq_nil_iff.1 he)
    rw [wordsOf, String.toList_append, String.toList_append, List.append_assoc,
      words_append_of_blank hbefore, words_append_of_isWord hne hw.unbroken htext, List.map_cons,
      String.ofList_toList, ← wordsOf, ih]

/-- Every text spaces out its words. -/
theorem spacesOut_words (cs : List Char) :
    SpacesOut ((words cs).map String.ofList) (String.ofList cs) := by
  have hblanks : ∀ c ∈ cs.takeWhile isBlank, isBlank c = true := List.all_eq_true.1 List.all_takeWhile
  have hcs : cs.takeWhile isBlank ++ trimStart cs = cs := List.takeWhile_append_dropWhile
  have hwords := words_trimStart cs
  cases hrest : trimStart cs with
  | nil =>
    rw [hrest, words_nil] at hwords
    rw [hrest, List.append_nil] at hcs
    rw [← hwords]
    refine .blanks fun c hc => hblanks c ?_
    rwa [hcs, ← String.toList_ofList (l := cs)]
  | cons c rest =>
    have hc : isBlank c = false := not_of_mem_head?_dropWhile c (hrest ▸ rfl : c ∈ (trimStart cs).head?)
    obtain ⟨w, text, hcut, htext, hcons⟩ := exists_words_eq_cons rest hc
    rw [hrest, hcons] at hwords
    have hw : w ∈ words cs := hwords ▸ List.mem_cons_self
    obtain ⟨hne, hunbroken⟩ := not_blank_of_mem_words hw
    rw [hrest, hcut] at hcs
    have hshorter : text.length < cs.length := by
      have hlength := congrArg List.length hcs
      have hpos := List.length_pos_iff.2 hne
      simp only [List.length_append] at hlength
      omega
    rw [← hwords, List.map_cons, ← hcs, String.ofList_append, String.ofList_append, ← String.append_assoc]
    refine .word ?_ ⟨?_, ?_⟩ ?_ (spacesOut_words text)
    · rwa [AllBlank, String.toList_ofList]
    · rwa [ne_eq, ← String.toList_eq_nil_iff, String.toList_ofList]
    · rwa [Unbroken, String.toList_ofList]
    · rwa [String.toList_ofList]
termination_by cs.length

/-- A text has the words that it spaces out, and no others. -/
theorem spacesOut_iff {ws : List String} {s : String} : SpacesOut ws s ↔ wordsOf s = ws := by
  constructor
  · exact SpacesOut.wordsOf_eq
  · rintro rfl
    have h := spacesOut_words s.toList
    rwa [String.ofList_toList] at h

/-- Words are spaced out by blanks of any kind, if some stand between one word and the next. -/
theorem spacesOut_spaced {before : String} {parts : List (String × String)} (hbefore : AllBlank before)
    (hparts : ∀ part ∈ parts, IsWord part.1 ∧ AllBlank part.2)
    (hgaps : ∀ part ∈ parts.dropLast, part.2 ≠ "") :
    SpacesOut (parts.map Prod.fst) (spaced before parts) := by
  induction parts generalizing before with
  | nil => exact .blanks hbefore
  | cons part rest ih =>
    obtain ⟨w, gap⟩ := part
    obtain ⟨⟨hw, hgap⟩, hrest⟩ := List.forall_mem_cons.1 hparts
    have hhead : ∀ c ∈ gap.toList.head?, isBlank c = true := fun c hc => hgap c (List.mem_of_head? hc)
    cases rest with
    | nil => exact .word hbefore hw hhead (.blanks hgap)
    | cons next rest =>
      rw [List.dropLast_cons_cons, List.forall_mem_cons] at hgaps
      refine .word hbefore hw (fun c hc => hhead c ?_) (ih hgap hrest hgaps.2)
      -- the gap is not empty, so it is what the rest opens with
      have hne : gap.toList ≠ [] := fun he => hgaps.1 (String.toList_eq_nil_iff.1 he)
      rwa [spaced, String.toList_append, String.toList_append, List.append_assoc,
        List.head?_append_of_ne_nil _ hne] at hc

/-! ## Single-spaced texts -/

/-- A text with words and single plain spaces between them, and no other blanks. -/
structure SingleSpaced (s : String) : Prop extends OneLine s where
  ne_empty : s ≠ ""
  head_ne : s.toList.head? ≠ some ' '
  last_ne : s.toList.getLast? ≠ some ' '
  not_doubled : s.toList.IsChain fun c d => ¬ (c = ' ' ∧ d = ' ')

theorem IsWord.singleSpaced {w : String} (h : IsWord w) : SingleSpaced w := by
  have hspace : ' ' ∉ w.toList := fun hmem => by
    have hblank := h.unbroken ' ' hmem
    exact absurd hblank (by decide)
  refine ⟨h.unbroken.oneLine, h.ne_empty, fun he => hspace (List.mem_of_head? he),
    fun he => hspace (List.mem_of_getLast? he), ?_⟩
  refine (List.pairwise_of_forall_mem_list fun c hc d _ hcd => ?_).isChain
  exact hspace (hcd.1 ▸ hc)

/-- A word goes in front with one space. -/
theorem SingleSpaced.cons {w t : String} (hw : IsWord w) (ht : SingleSpaced t) :
    SingleSpaced (w ++ " " ++ t) := by
  have hword := hw.singleSpaced
  have hne : w.toList ≠ [] := fun he => hw.ne_empty (String.toList_eq_nil_iff.1 he)
  have hrest : t.toList ≠ [] := fun he => ht.ne_empty (String.toList_eq_nil_iff.1 he)
  have htext := toList_append_space w t
  refine ⟨(hword.toOneLine.append (by decide)).append ht.toOneLine, ?_, ?_, ?_, ?_⟩
  · rw [ne_eq, ← String.toList_eq_nil_iff, htext]
    exact List.append_ne_nil_of_left_ne_nil hne _
  · rw [htext, List.head?_append_of_ne_nil _ hne]
    exact hword.head_ne
  · rw [htext, List.getLast?_append_of_ne_nil _ (List.cons_ne_nil _ _),
      List.getLast?_cons_of_ne_nil hrest]
    exact ht.last_ne
  · rw [htext, List.isChain_append, List.isChain_cons]
    refine ⟨hword.not_doubled, ⟨fun d hd hcd => ht.head_ne ?_, ht.not_doubled⟩,
      fun c hc d _ hcd => hword.last_ne ?_⟩
    · rw [← hcd.2]
      exact hd
    · rw [← hcd.1]
      exact hc

theorem singleSpaced_intercalate {ws : List String} (hne : ws ≠ []) (h : ∀ w ∈ ws, IsWord w) :
    SingleSpaced (" ".intercalate ws) := by
  induction ws with
  | nil => exact absurd rfl hne
  | cons w rest ih =>
    obtain ⟨hw, hrest⟩ := List.forall_mem_cons.1 h
    cases rest with
    | nil =>
      rw [String.intercalate_singleton]
      exact hw.singleSpaced
    | cons v rest =>
      rw [String.intercalate_cons_cons]
      exact .cons hw (ih (List.cons_ne_nil _ _) hrest)

/-- A single-spaced text opens with no blank. -/
theorem SingleSpaced.eq_empty_of_append {before text : String} (h : SingleSpaced (before ++ text))
    (hbefore : AllBlank before) : before = "" := by
  rw [← String.toList_eq_nil_iff]
  cases hchars : before.toList with
  | nil => rfl
  | cons c rest =>
    have htext : (before ++ text).toList = c :: (rest ++ text.toList) := by
      rw [String.toList_append, hchars, List.cons_append]
    have hc : c = ' ' := h.inline c (htext ▸ List.mem_cons_self) (hbefore c (hchars ▸ List.mem_cons_self))
    refine absurd ?_ h.head_ne
    rw [htext, hc, List.head?_cons]

/-- What opens with a blank inside a single-spaced text opens with a plain space. -/
theorem SingleSpaced.exists_space {w text : String} (h : SingleSpaced (w ++ text)) (hne : text ≠ "")
    (hblank : ∀ c ∈ text.toList.head?, isBlank c = true) : ∃ tail, text = " " ++ tail := by
  cases hchars : text.toList with
  | nil => exact absurd (String.toList_eq_nil_iff.1 hchars) hne
  | cons c rest =>
    have hmem : c ∈ (w ++ text).toList := by
      rw [String.toList_append, hchars]
      exact List.mem_append_right _ List.mem_cons_self
    have hc : c = ' ' := h.inline c hmem (hblank c (by rw [hchars]; rfl))
    refine ⟨String.ofList rest, ?_⟩
    rw [← String.toList_inj, hchars, hc, String.toList_append, String.toList_ofList (l := rest)]
    rfl

/-- What follows a space of a single-spaced text is single-spaced. -/
theorem SingleSpaced.tail {w t : String} (h : SingleSpaced (w ++ " " ++ t)) : SingleSpaced t := by
  have htext := toList_append_space w t
  have hlast := h.last_ne
  have hchain := h.not_doubled
  rw [htext, List.getLast?_append_of_ne_nil _ (List.cons_ne_nil _ _)] at hlast
  rw [htext, List.isChain_append, List.isChain_cons] at hchain
  obtain ⟨-, ⟨hhead, hrest⟩, -⟩ := hchain
  have hne : t.toList ≠ [] := fun he => hlast (by rw [he]; rfl)
  rw [List.getLast?_cons_of_ne_nil hne] at hlast
  refine ⟨⟨fun c hc => h.inline c ?_⟩, fun he => hne (String.toList_eq_nil_iff.2 he),
    fun he => hhead ' ' he ⟨rfl, rfl⟩, hlast, hrest⟩
  rw [htext]
  exact List.mem_append_right _ (List.mem_cons_of_mem _ hc)

theorem SingleSpaced.intercalate_words {ws : List String} {s : String} (hs : SingleSpaced s)
    (h : SpacesOut ws s) : ws ≠ [] ∧ " ".intercalate ws = s := by
  -- on the words: what follows the first one and its space is single-spaced again
  induction ws generalizing s with
  | nil =>
    cases h with
    | blanks h =>
      rw [← String.append_empty (s := s)] at hs
      exact absurd (hs.eq_empty_of_append h) (by simpa using hs.ne_empty)
  | cons w rest ih =>
    refine ⟨List.cons_ne_nil _ _, ?_⟩
    cases h with
    | @word before _ text _ hbefore hw htext h =>
      rw [String.append_assoc] at hs
      obtain rfl := hs.eq_empty_of_append hbefore
      rw [String.empty_append] at hs ⊢
      by_cases hempty : text = ""
      · subst hempty
        obtain rfl : rest = [] := h.wordsOf_eq.symm
        rw [String.intercalate_singleton, String.append_empty]
      · obtain ⟨tail, rfl⟩ := hs.exists_space hempty htext
        rw [← String.append_assoc] at hs
        have hrest : SpacesOut rest tail := by
          have hwords := wordsOf_append_space "" tail
          rw [String.empty_append] at hwords
          rw [spacesOut_iff, ← h.wordsOf_eq, hwords]
          rfl
        obtain ⟨hne, heq⟩ := ih hs.tail hrest
        obtain ⟨v, others, rfl⟩ := List.exists_cons_of_ne_nil hne
        rw [String.intercalate_cons_cons, heq, String.append_assoc]

/-- A text is single-spaced exactly if it is its words, and there are some, joined by spaces. -/
theorem singleSpaced_iff {s : String} :
    SingleSpaced s ↔ wordsOf s ≠ [] ∧ " ".intercalate (wordsOf s) = s := by
  constructor
  · intro h
    exact h.intercalate_words (spacesOut_iff.2 rfl)
  · rintro ⟨hne, heq⟩
    rw [← heq]
    exact singleSpaced_intercalate hne fun w hw => isWord_of_mem_wordsOf hw

end PolicyHeader.Text
