import PolicyHeader.Text.Pieces

/-!
# Words of a text

Everything about the words of a text follows from two equations: a text splits at each of its blanks
(`words_append_blank`), and a text without blanks is one word (`words_of_isWord`). Words that are put
together with spaces are read back as they were (`wordsOf_intercalate`).
-/

namespace PolicyHeader.Text

/-- A text without blanks. -/
def Unbroken (s : String) : Prop :=
  ∀ c ∈ s.toList, isBlank c = false

instance (s : String) : Decidable (Unbroken s) :=
  List.decidableBAll (fun c => isBlank c = false) s.toList

/-- A text that is one word: it has no blanks and is not empty. -/
structure IsWord (s : String) : Prop where
  ne_empty : s ≠ ""
  unbroken : Unbroken s

instance (s : String) : Decidable (IsWord s) :=
  decidable_of_iff (s ≠ "" ∧ Unbroken s) ⟨fun h => ⟨h.1, h.2⟩, fun h => ⟨h.1, h.2⟩⟩

/-- The words of a text, as texts. -/
def wordsOf (s : String) : List String :=
  (words s.toList).map String.ofList

/-! ## Texts without blanks -/

theorem unbroken_append {s t : String} : Unbroken (s ++ t) ↔ Unbroken s ∧ Unbroken t := by
  simp only [Unbroken, String.toList_append, List.mem_append]
  constructor
  · intro h
    exact ⟨fun c hc => h c (.inl hc), fun c hc => h c (.inr hc)⟩
  · rintro ⟨hs, ht⟩ c (hc | hc)
    · exact hs c hc
    · exact ht c hc

theorem unbroken_empty : Unbroken "" := by
  decide

theorem unbroken_intercalate {separator : String} (hseparator : Unbroken separator)
    {parts : List String} :
    Unbroken (separator.intercalate parts) ↔ ∀ part ∈ parts, Unbroken part := by
  induction parts with
  | nil => simp [unbroken_empty]
  | cons part rest ih =>
    cases rest with
    | nil => simp
    | cons next rest =>
      rw [String.intercalate_cons_cons, unbroken_append, unbroken_append, ih, List.forall_mem_cons]
      simp [hseparator]

theorem IsWord.append_left {s : String} (hs : IsWord s) {t : String} (ht : Unbroken t) :
    IsWord (s ++ t) := by
  refine ⟨?_, unbroken_append.2 ⟨hs.unbroken, ht⟩⟩
  intro h
  have hnil := congrArg String.toList h
  rw [String.toList_append, String.toList_empty, List.append_eq_nil_iff] at hnil
  exact hs.ne_empty (String.toList_eq_nil_iff.1 hnil.1)

/-! ## Words as lists of characters -/

@[simp]
theorem words_nil : words [] = [] :=
  rfl

/-- A text splits at each of its blanks. -/
theorem words_append_blank {b : Char} (hb : isBlank b = true) (xs ys : List Char) :
    words (xs ++ b :: ys) = words xs ++ words ys := by
  rw [words, List.splitOnP_append_cons xs ys hb, List.filter_append, words, words]

theorem words_cons_blank {b : Char} (hb : isBlank b = true) (ys : List Char) :
    words (b :: ys) = words ys :=
  words_append_blank hb [] ys

/-- A text without blanks is one word. -/
theorem words_of_isWord {w : List Char} (hne : w ≠ []) (h : ∀ c ∈ w, isBlank c = false) :
    words w = [w] := by
  rw [words, List.splitOnP_eq_singleton h]
  simp [hne]

/-- A word that is followed by a blank, or by nothing, is read on its own. -/
theorem words_append_of_isWord {w rest : List Char} (hne : w ≠ []) (h : ∀ c ∈ w, isBlank c = false)
    (hrest : ∀ c ∈ rest.head?, isBlank c = true) : words (w ++ rest) = w :: words rest := by
  cases rest with
  | nil => rw [List.append_nil, words_of_isWord hne h, words_nil]
  | cons b rest =>
    have hb : isBlank b = true := hrest b rfl
    rw [words_append_blank hb, words_of_isWord hne h, words_cons_blank hb, List.singleton_append]

/-- Blanks in front of a text belong to no word. -/
theorem words_append_of_blank {blanks : List Char} (h : ∀ c ∈ blanks, isBlank c = true)
    (cs : List Char) : words (blanks ++ cs) = words cs := by
  induction blanks with
  | nil => rfl
  | cons b rest ih =>
    obtain ⟨hb, hrest⟩ := List.forall_mem_cons.1 h
    rw [List.cons_append, words_cons_blank hb, ih hrest]

theorem words_trimStart (cs : List Char) : words (trimStart cs) = words cs := by
  have hblanks : ∀ c ∈ cs.takeWhile isBlank, isBlank c = true := List.all_eq_true.1 List.all_takeWhile
  have hcs : cs.takeWhile isBlank ++ trimStart cs = cs := List.takeWhile_append_dropWhile
  rw [← words_append_of_blank hblanks, hcs]

/-- A text that opens with no blank opens with its first word. -/
theorem exists_words_eq_cons {c : Char} (cs : List Char) (hc : isBlank c = false) :
    ∃ w rest, c :: cs = w ++ rest ∧ (∀ b ∈ rest.head?, isBlank b = true) ∧
      words (c :: cs) = w :: words rest := by
  have happend : (c :: cs).takeWhile (!isBlank ·) ++ (c :: cs).dropWhile (!isBlank ·) = c :: cs :=
    List.takeWhile_append_dropWhile
  have hword : ∀ d ∈ (c :: cs).takeWhile (!isBlank ·), isBlank d = false := fun d hd => by
    simpa using List.all_eq_true.1 List.all_takeWhile d hd
  have hne : (c :: cs).takeWhile (!isBlank ·) ≠ [] := by
    rw [List.takeWhile_cons_of_pos (by simp [hc])]
    exact List.cons_ne_nil _ _
  have hrest : ∀ b ∈ ((c :: cs).dropWhile (!isBlank ·)).head?, isBlank b = true := fun b hb => by
    simpa using not_of_mem_head?_dropWhile b hb
  refine ⟨_, _, happend.symm, hrest, ?_⟩
  rw [← words_append_of_isWord hne hword hrest, happend]

/-! ## Words as texts -/

theorem isWord_of_mem_wordsOf {s w : String} (h : w ∈ wordsOf s) : IsWord w := by
  obtain ⟨cs, hcs, rfl⟩ := List.mem_map.1 h
  obtain ⟨hne, hblank⟩ := not_blank_of_mem_words hcs
  refine ⟨fun he => hne ?_, ?_⟩
  · rw [← String.toList_ofList (l := cs), he, String.toList_empty]
  · rwa [Unbroken, String.toList_ofList]

theorem wordsOf_of_isWord {s : String} (h : IsWord s) : wordsOf s = [s] := by
  have hne : s.toList ≠ [] := fun he => h.ne_empty (String.toList_eq_nil_iff.1 he)
  rw [wordsOf, words_of_isWord hne h.unbroken, List.map_singleton, String.ofList_toList]

theorem toList_append_space (s t : String) : (s ++ " " ++ t).toList = s.toList ++ ' ' :: t.toList := by
  rw [String.toList_append, String.toList_append, List.append_assoc]
  rfl

/-- Two texts with a space between them have the words of both. -/
theorem wordsOf_append_space (s t : String) : wordsOf (s ++ " " ++ t) = wordsOf s ++ wordsOf t := by
  rw [wordsOf, toList_append_space, words_append_blank (by decide), List.map_append, wordsOf, wordsOf]

/-- Words with spaces between them are read back as they were. -/
theorem wordsOf_intercalate {ws : List String} (h : ∀ w ∈ ws, IsWord w) :
    wordsOf (" ".intercalate ws) = ws := by
  induction ws with
  | nil => rfl
  | cons w rest ih =>
    have hw : IsWord w := h w List.mem_cons_self
    have hrest := ih fun v hv => h v (List.mem_cons_of_mem _ hv)
    cases rest with
    | nil => rw [String.intercalate_singleton, wordsOf_of_isWord hw]
    | cons v rest =>
      rw [String.intercalate_cons_cons, wordsOf_append_space, wordsOf_of_isWord hw, hrest,
        List.singleton_append]

end PolicyHeader.Text
