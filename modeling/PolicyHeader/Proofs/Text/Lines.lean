import PolicyHeader.Text.Pieces

/-!
# Lines of a text

A text opens with a line for each line feed in it (`lines_append_newline`), and no line holds one. The
lines of a text that ends in a line feed stay the same, whatever is written after it (`lines_append`). A
text is trimmed if it ends in no blank; trimming leaves such a text alone (`trimEnd_of_isTrimmed`).
-/

namespace PolicyHeader.Text

/-! ## Trimmed texts -/

/-- A text that ends in no blank. -/
def IsTrimmed (cs : List Char) : Prop :=
  ∀ c ∈ cs.getLast?, isBlank c = false

instance (cs : List Char) : Decidable (IsTrimmed cs) :=
  Option.decidableForallMem cs.getLast?

theorem trimStart_of_head {c : Char} (hc : isBlank c = false) (cs : List Char) :
    trimStart (c :: cs) = c :: cs :=
  List.dropWhile_cons_of_neg (by simp [hc])

/-- Blanks in front of a text that opens with none are trimmed off. -/
theorem trimStart_append_of_blank {blanks cs : List Char} (hblanks : ∀ c ∈ blanks, isBlank c = true)
    (hcs : ∀ c ∈ cs.head?, isBlank c = false) : trimStart (blanks ++ cs) = cs := by
  rw [trimStart, List.dropWhile_append_of_pos hblanks]
  cases cs with
  | nil => rfl
  | cons c rest => exact trimStart_of_head (hcs c rfl) rest

theorem trimEnd_of_isTrimmed {cs : List Char} (h : IsTrimmed cs) : trimEnd cs = cs := by
  rw [trimEnd, List.reverse_eq_iff]
  cases hrev : cs.reverse with
  | nil => rfl
  | cons c rest =>
    have hlast : c ∈ cs.getLast? := by
      rw [List.getLast?_eq_head?_reverse, hrev]
      rfl
    exact trimStart_of_head (h c hlast) rest

theorem isTrimmed_trimEnd (cs : List Char) : IsTrimmed (trimEnd cs) := by
  intro c hc
  rw [trimEnd, List.getLast?_reverse] at hc
  exact not_of_mem_head?_dropWhile c hc

theorem isTrimmed_append (front : List Char) {back : List Char} (hne : back ≠ [])
    (h : IsTrimmed back) : IsTrimmed (front ++ back) := by
  intro c hc
  rw [List.getLast?_append, List.getLast?_eq_some_getLast hne, Option.some_or,
    ← List.getLast?_eq_some_getLast hne] at hc
  exact h c hc

theorem isTrimmed_of_forall {cs : List Char} (h : ∀ c ∈ cs, isBlank c = false) : IsTrimmed cs :=
  fun c hc => h c (List.mem_of_getLast? hc)

theorem mem_of_mem_trimEnd {c : Char} {cs : List Char} (h : c ∈ trimEnd cs) : c ∈ cs := by
  obtain ⟨blanks, -, hcs⟩ := trimEnd_append_blanks cs
  rw [hcs]
  exact List.mem_append_left _ h

theorem mem_of_mem_trim {c : Char} {cs : List Char} (h : c ∈ trim cs) : c ∈ cs :=
  List.dropWhile_subset isBlank (mem_of_mem_trimEnd h)

/-- A text that is trimmed at both ends is left alone. -/
theorem trim_of_isTrimmed {c : Char} {cs : List Char} (hc : isBlank c = false)
    (h : IsTrimmed (c :: cs)) : trim (c :: cs) = c :: cs := by
  rw [trim, trimStart_of_head hc, trimEnd_of_isTrimmed h]

theorem trim_of_forall {cs : List Char} (h : ∀ c ∈ cs, isBlank c = false) : trim cs = cs := by
  cases cs with
  | nil => rfl
  | cons c rest => exact trim_of_isTrimmed (h c List.mem_cons_self) (isTrimmed_of_forall h)

theorem trimEnd_append_of_blank (cs : List Char) {blanks : List Char}
    (h : ∀ c ∈ blanks, isBlank c = true) : trimEnd (cs ++ blanks) = trimEnd cs := by
  have hreverse : ∀ c ∈ blanks.reverse, isBlank c = true := fun c hc => h c (List.mem_reverse.1 hc)
  rw [trimEnd, trimEnd, List.reverse_append, List.dropWhile_append_of_pos hreverse]

theorem exists_padded_trim (cs : List Char) :
    ∃ before after, cs = before ++ trim cs ++ after ∧ (∀ c ∈ before, isBlank c = true) ∧
      ∀ c ∈ after, isBlank c = true := by
  obtain ⟨after, hafter, hstart⟩ := trimEnd_append_blanks (trimStart cs)
  refine ⟨cs.takeWhile isBlank, after, ?_, fun c hc => ?_, hafter⟩
  · rw [List.append_assoc, trim, ← hstart, trimStart, List.takeWhile_append_dropWhile]
  · exact List.all_eq_true.1 List.all_takeWhile c hc

/-- Blanks at both ends make no difference to what is left of a text. -/
theorem trim_padded {before after : List Char} (hbefore : ∀ c ∈ before, isBlank c = true)
    (hafter : ∀ c ∈ after, isBlank c = true) (cs : List Char) :
    trim (before ++ cs ++ after) = trim cs := by
  rw [trim, trimStart, List.append_assoc, List.dropWhile_append_of_pos hbefore, List.dropWhile_append]
  split
  · next hblank =>
    -- a text of blanks alone is trimmed to nothing from the front
    have hnone : after.dropWhile isBlank = [] := by
      rw [← List.append_nil after, List.dropWhile_append_of_pos hafter]
      rfl
    rw [hnone, trim, trimStart, List.isEmpty_iff.1 hblank]
  · rw [trimEnd_append_of_blank _ hafter, trim, trimStart]

theorem trim_trim (cs : List Char) : trim (trim cs) = trim cs := by
  obtain ⟨before, after, hcs, hbefore, hafter⟩ := exists_padded_trim cs
  conv => rhs; rw [hcs]
  exact (trim_padded hbefore hafter (trim cs)).symm

theorem trim_eq_nil_iff {cs : List Char} : trim cs = [] ↔ isAllBlank cs = true := by
  rw [isAllBlank, List.all_eq_true]
  constructor
  · intro h
    obtain ⟨before, after, hcs, hbefore, hafter⟩ := exists_padded_trim cs
    rw [h, List.append_nil] at hcs
    rw [hcs]
    intro c hc
    exact (List.mem_append.1 hc).elim (hbefore c) (hafter c)
  · intro h
    have hnone : trim ([] : List Char) = [] := rfl
    rw [← hnone, ← trim_padded h (List.forall_mem_nil _) [], List.append_nil, List.append_nil]

/-- Whether a text is blank shows in what trimming leaves of it. -/
theorem isAllBlank_of_trim_eq {cs ds : List Char} (h : trim cs = trim ds) :
    isAllBlank cs = isAllBlank ds := by
  rw [Bool.eq_iff_iff, ← trim_eq_nil_iff, ← trim_eq_nil_iff, h]

/-- Blanks after a trimmed text are trimmed on their own. -/
theorem trimEnd_append {front : List Char} (h : IsTrimmed front) (back : List Char) :
    trimEnd (front ++ back) = front ++ trimEnd back := by
  obtain ⟨blanks, hblanks, hback⟩ := trimEnd_append_blanks back
  have htrimmed : IsTrimmed (front ++ trimEnd back) := by
    cases hend : trimEnd back with
    | nil => rwa [List.append_nil]
    | cons c rest =>
      rw [← hend]
      exact isTrimmed_append front (by simp [hend]) (isTrimmed_trimEnd back)
  conv => lhs; rw [hback]
  rw [← List.append_assoc, trimEnd_append_of_blank _ hblanks, trimEnd_of_isTrimmed htrimmed]

/-! ## Lines -/

/-- A carriage return at the end is trimmed off with the other blanks. -/
theorem trim_dropReturn (line : List Char) : trim (dropReturn line) = trim line := by
  rw [dropReturn]
  split
  · next hlast =>
    obtain ⟨front, rfl⟩ := List.getLast?_eq_some_iff.1 hlast
    have hreturn : ∀ c ∈ ['\r'], isBlank c = true := List.forall_mem_singleton.2 (by decide)
    rw [List.dropLast_concat]
    exact (trim_padded (List.forall_mem_nil _) hreturn front).symm
  · rfl

/-- Carriage returns are blank, so a trimmed line ends in none. -/
theorem dropReturn_of_isTrimmed {line : List Char} (h : IsTrimmed line) : dropReturn line = line := by
  refine if_neg fun hlast => ?_
  have hblank := h '\r' hlast
  exact absurd hblank (by decide)

theorem mem_of_mem_dropReturn {c : Char} {line : List Char} (h : c ∈ dropReturn line) : c ∈ line := by
  rw [dropReturn] at h
  split at h
  · exact List.dropLast_subset line h
  · exact h

/-- A text opens with the line before its first line feed. -/
theorem lines_append_newline {line : List Char} (h : '\n' ∉ line) (rest : List Char) :
    lines (line ++ '\n' :: rest) = dropReturn line :: lines rest := by
  rw [lines, List.splitOn_append_cons_self_of_not_mem h, lines]
  cases hsplit : rest.splitOn '\n' with
  | nil => exact absurd hsplit (List.splitOn_ne_nil _ _)
  | cons piece pieces => rw [closeLines]

theorem closeLines_append (first : List (List Char)) {second : List (List Char)} (hne : second ≠ []) :
    closeLines (first ++ second) = first.map dropReturn ++ closeLines second := by
  induction first with
  | nil => rfl
  | cons piece rest ih =>
    cases hrest : rest ++ second with
    | nil => exact absurd (List.append_eq_nil_iff.1 hrest).2 hne
    | cons next more =>
      rw [List.cons_append, hrest, closeLines, ← hrest, ih, List.map_cons, List.cons_append]

/-- After a line feed, the lines of a text begin anew. -/
theorem lines_append {xs : List Char} (h : xs.getLast? = some '\n') (ys : List Char) :
    lines (xs ++ ys) = lines xs ++ lines ys := by
  obtain ⟨front, rfl⟩ := List.getLast?_eq_some_iff.1 h
  have hlines (rest : List Char) :
      lines (front ++ '\n' :: rest) = (front.splitOn '\n').map dropReturn ++ lines rest := by
    rw [lines, List.splitOn_append_cons_self, closeLines_append _ (List.splitOn_ne_nil _ _), lines]
  have hnone : lines [] = [] := rfl
  rw [List.append_assoc, List.singleton_append, hlines, hlines, hnone, List.append_nil]

/-- Pieces with a line feed between them are closed into lines. -/
theorem lines_intercalate {pieces : List (List Char)} (h : ∀ piece ∈ pieces, '\n' ∉ piece) :
    lines (['\n'].intercalate pieces) = closeLines pieces := by
  by_cases hne : pieces = []
  · rw [hne]
    rfl
  · rw [lines, List.splitOn_intercalate '\n' h hne]

/-- Pieces that are left out in front are left out of the lines, if they are told from their lines. -/
theorem closeLines_dropWhile {p : List Char → Bool} (hp : ∀ line, p (dropReturn line) = p line)
    (pieces : List (List Char)) : closeLines (pieces.dropWhile p) = (closeLines pieces).dropWhile p := by
  induction pieces with
  | nil => rfl
  | cons piece rest ih =>
    cases rest with
    | nil =>
      -- the last piece is left out on either side, by the class or because it is empty
      by_cases hpiece : p piece = true <;> cases hempty : piece.isEmpty <;>
        simp [closeLines, hpiece, hempty]
    | cons next rest =>
      by_cases hpiece : p piece = true
      · rw [List.dropWhile_cons_of_pos hpiece, ih, closeLines,
          List.dropWhile_cons_of_pos (by rw [hp, hpiece])]
      · rw [List.dropWhile_cons_of_neg hpiece, closeLines,
          List.dropWhile_cons_of_neg (by rw [hp]; exact hpiece)]

theorem newline_not_mem_of_mem_splitOn {cs piece : List Char} (h : piece ∈ cs.splitOn '\n') :
    '\n' ∉ piece := by
  intro hnewline
  rw [List.splitOn_eq_splitOnP] at h
  simpa using not_of_mem_splitOnP h '\n' hnewline

theorem exists_of_mem_closeLines {line : List Char} {pieces : List (List Char)}
    (h : line ∈ closeLines pieces) : ∃ piece ∈ pieces, ∀ c ∈ line, c ∈ piece := by
  induction pieces with
  | nil => cases h
  | cons piece rest ih =>
    -- only the last piece keeps its carriage return, or is no line
    cases rest with
    | nil =>
      rw [closeLines] at h
      split at h
      · cases h
      · exact ⟨piece, List.mem_cons_self, by simp [List.mem_singleton.1 h]⟩
    | cons next rest =>
      rw [closeLines, List.mem_cons] at h
      rcases h with rfl | h
      · exact ⟨piece, List.mem_cons_self, fun c => mem_of_mem_dropReturn⟩
      · obtain ⟨found, hfound, hmem⟩ := ih h
        exact ⟨found, List.mem_cons_of_mem _ hfound, hmem⟩

theorem newline_not_mem_of_mem_lines {cs line : List Char} (h : line ∈ lines cs) : '\n' ∉ line := by
  obtain ⟨piece, hpiece, hmem⟩ := exists_of_mem_closeLines h
  exact fun hnewline => newline_not_mem_of_mem_splitOn hpiece (hmem '\n' hnewline)

end PolicyHeader.Text
