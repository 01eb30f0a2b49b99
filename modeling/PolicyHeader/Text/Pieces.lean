import PolicyHeader.Text.Blank

/-!
# Pieces of a text

A text is cut into words at its blanks, into lines at its line feeds, and into two parts at the first
occurrence of a separator.
-/

namespace PolicyHeader.Text

/-- The maximal runs of characters that are not blank, in order. -/
def words (cs : List Char) : List (List Char) :=
  (cs.splitOnP isBlank).filter fun piece => !piece.isEmpty

/-- No piece holds an element at which the list is cut. -/
theorem not_of_mem_splitOnP {α : Type} {p : α → Bool} {xs piece : List α}
    (h : piece ∈ xs.splitOnP p) : ∀ x ∈ piece, p x = false := by
  induction xs generalizing piece with
  | nil =>
    rw [List.splitOnP_nil, List.mem_singleton] at h
    simp [h]
  | cons x rest ih =>
    rw [List.splitOnP_cons_eq_if_modifyHead] at h
    split at h
    · rcases List.mem_cons.1 h with rfl | h
      · simp
      · exact ih h
    · next hx =>
      cases hpieces : rest.splitOnP p with
      | nil => simp [hpieces] at h
      | cons first pieces =>
        rw [hpieces, List.modifyHead_cons] at h
        rcases List.mem_cons.1 h with rfl | h
        · intro y hy
          rcases List.mem_cons.1 hy with rfl | hy
          · simpa using hx
          · exact ih (by rw [hpieces]; exact List.mem_cons_self) y hy
        · exact ih (by rw [hpieces]; exact List.mem_cons_of_mem _ h)

/-- A word holds no blank and is not empty. -/
theorem not_blank_of_mem_words {cs word : List Char} (h : word ∈ words cs) :
    word ≠ [] ∧ ∀ c ∈ word, isBlank c = false := by
  obtain ⟨hpiece, hword⟩ := List.mem_filter.1 h
  exact ⟨by simpa using hword, not_of_mem_splitOnP hpiece⟩

/-- The parts before and after the first occurrence of a separator. -/
def cut? (separator : Char) : List Char → Option (List Char × List Char)
  | [] => none
  | c :: rest =>
    if c = separator then some ([], rest)
    else (cut? separator rest).map fun parts => (c :: parts.1, parts.2)

/-- A cut loses nothing but the separator. -/
theorem eq_of_cut?_eq_some {separator : Char} {cs before after : List Char}
    (h : cut? separator cs = some (before, after)) : cs = before ++ separator :: after := by
  induction cs generalizing before after with
  | nil => simp [cut?] at h
  | cons c rest ih =>
    by_cases hc : c = separator
    · simp only [cut?, hc, ↓reduceIte, Option.some.injEq, Prod.mk.injEq] at h
      simp [← h.1, ← h.2, hc]
    · simp only [cut?, hc, ↓reduceIte, Option.map_eq_some_iff] at h
      obtain ⟨⟨b, a⟩, hcut, hparts⟩ := h
      simp only [Prod.mk.injEq] at hparts
      simp [← hparts.1, ← hparts.2, ih hcut]

/-- The cut of a text at the first occurrence of a separator. -/
def cutText? (separator : Char) (s : String) : Option (String × String) :=
  (cut? separator s.toList).map fun parts => (String.ofList parts.1, String.ofList parts.2)

/-- A line that ended in a line feed also loses the carriage return before it. -/
def dropReturn (line : List Char) : List Char :=
  if line.getLast? = some '\r' then line.dropLast else line

/-- Closes the pieces between line feeds into lines: what follows the last line feed is a line of its
own unless it is empty. -/
def closeLines : List (List Char) → List (List Char)
  | [] => []
  | [last] => if last.isEmpty then [] else [last]
  | piece :: next :: rest => dropReturn piece :: closeLines (next :: rest)

/-- The lines of a text. A line ends in a line feed or a carriage return and a line feed. -/
def lines (cs : List Char) : List (List Char) :=
  closeLines (cs.splitOn '\n')

end PolicyHeader.Text
