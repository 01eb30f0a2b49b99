import Mathlib.Data.List.Basic
import PolicyHeader.Proofs.Header.Rendering
import PolicyHeader.Proofs.Text.Pattern

/-!
# Package statements

A line names a package if it is a package statement: blanks or none, the word `package`, at least one
blank, and a path that reaches as far as it can (`NamesPackage`). The statements are also given by a pattern
(`packagePattern`), whose repetitions never have to give anything back: the word does not start with a blank,
and neither does a path. The scanner of one line, the statements and the pattern say the same
(`packagePath?_eq_some_iff`, `packagePath?_eq_lastTaken?`), and blanks around a line are of no account to
them (`packagePath?_trim`).
-/

namespace PolicyHeader.Source

open Text (Part readings lastTaken?)

/-- A package statement names the path after its word. Blanks may stand in front and have to stand between
the word and the path, and what follows the path cannot go on with it. -/
inductive NamesPackage : List Char → List Char → Prop
  | statement {before gap path rest : List Char}
      (hbefore : ∀ c ∈ before, Text.isBlank c = true)
      (hgap : gap ≠ [] ∧ ∀ c ∈ gap, Text.isBlank c = true)
      (hpath : path ≠ [] ∧ ∀ c ∈ path, isPathChar c = true)
      (hrest : ∀ c ∈ rest.head?, isPathChar c = false) :
      NamesPackage (before ++ packageWord ++ gap ++ path ++ rest) path

/-! ## Taking a statement apart -/

theorem takeWhile_isPathChar {path rest : List Char} (hpath : ∀ c ∈ path, isPathChar c = true)
    (hrest : ∀ c ∈ rest.head?, isPathChar c = false) :
    (path ++ rest).takeWhile isPathChar = path := by
  rw [List.takeWhile_append_of_pos hpath]
  cases rest with
  | nil => simp
  | cons c rest => simp [hrest c rfl]

theorem trimStart_statement {before : List Char} (hbefore : ∀ c ∈ before, Text.isBlank c = true)
    (after : List Char) : Text.trimStart (before ++ packageWord ++ after) = packageWord ++ after := by
  rw [List.append_assoc]
  refine Text.trimStart_append_of_blank hbefore fun c hc => ?_
  obtain rfl : 'p' = c := by simpa [packageWord] using hc
  decide

theorem packagePath?_of_namesPackage {line path : List Char} (h : NamesPackage line path) :
    packagePath? line = some path := by
  obtain @⟨before, gap, path, rest, hbefore, ⟨hgap, hblank⟩, ⟨hpath, hchars⟩, hrest⟩ := h
  obtain ⟨c, blanks, rfl⟩ := List.exists_cons_of_ne_nil hgap
  obtain ⟨hc, hblanks⟩ := List.forall_mem_cons.1 hblank
  have hline : before ++ packageWord ++ (c :: blanks) ++ path ++ rest =
      before ++ packageWord ++ (c :: (blanks ++ (path ++ rest))) := by
    simp only [List.append_assoc, List.cons_append]
  have hword : packageWord.isPrefixOf? (packageWord ++ (c :: (blanks ++ (path ++ rest)))) =
      some (c :: (blanks ++ (path ++ rest))) :=
    List.isPrefixOf?_eq_some_iff_append_eq.2 rfl
  have hfirst : ∀ d ∈ (path ++ rest).head?, Text.isBlank d = false := by
    obtain ⟨first, more, rfl⟩ := List.exists_cons_of_ne_nil hpath
    rintro d ⟨⟩
    exact isBlank_of_isPathChar (hchars first List.mem_cons_self)
  rw [packagePath?, hline, trimStart_statement hbefore, hword]
  simp [hc, Text.trimStart_append_of_blank hblanks hfirst, takeWhile_isPathChar hchars hrest, hpath]

theorem namesPackage_of_packagePath? {line path : List Char} (h : packagePath? line = some path) :
    NamesPackage line path := by
  unfold packagePath? at h
  split at h
  · next c rest hword =>
    split at h
    · next hc =>
      simp only [Option.ite_none_left_eq_some, Option.some.injEq] at h
      obtain ⟨hne, rfl⟩ := h
      have hline : line = line.takeWhile Text.isBlank ++ packageWord ++
          (c :: rest.takeWhile Text.isBlank) ++ (Text.trimStart rest).takeWhile isPathChar ++
            (Text.trimStart rest).dropWhile isPathChar := by
        have hstart := List.isPrefixOf?_eq_some_iff_append_eq.1 hword
        have hrest : rest.takeWhile Text.isBlank ++ Text.trimStart rest = rest :=
          List.takeWhile_append_dropWhile
        rw [List.append_assoc _ _ (List.dropWhile _ _), List.takeWhile_append_dropWhile,
          List.append_assoc, List.cons_append, hrest, List.append_assoc, hstart, Text.trimStart,
          List.takeWhile_append_dropWhile]
      have htaken (p : Char → Bool) (cs : List Char) : ∀ c ∈ cs.takeWhile p, p c = true :=
        fun c hc => List.mem_takeWhile_imp hc
      conv => arg 1; rw [hline]
      exact .statement (htaken _ line) ⟨List.cons_ne_nil _ _, List.forall_mem_cons.2 ⟨hc, htaken _ rest⟩⟩
        ⟨by simpa using hne, htaken _ _⟩ Text.not_of_mem_head?_dropWhile
    · cases h
  · cases h

/-- The scanner of one line accepts the package statements. -/
theorem packagePath?_eq_some_iff {line path : List Char} :
    packagePath? line = some path ↔ NamesPackage line path :=
  ⟨namesPackage_of_packagePath?, packagePath?_of_namesPackage⟩

theorem packagePath?_eq_none_iff {line : List Char} :
    packagePath? line = none ↔ ∀ path, ¬ NamesPackage line path := by
  simp only [Option.eq_none_iff_forall_ne_some, Ne, packagePath?_eq_some_iff]

/-! ## The pattern of a statement -/

/-- A package statement as a pattern, up to the end of its path. -/
def packagePattern : List Part :=
  [.many Text.isBlank, .exactly packageWord, .many1 Text.isBlank, .many1 isPathChar]

/-- The path cannot start with a blank, so the blanks in front of it are all taken. -/
theorem readings_gap_path (cs : List Char) :
    readings [.many1 Text.isBlank, .many1 isPathChar] cs =
      if (cs.takeWhile Text.isBlank).isEmpty then []
      else (readings [.many1 isPathChar] (cs.dropWhile Text.isBlank)).map
        (cs.takeWhile Text.isBlank :: ·) := by
  refine Text.flatMap_takes_many1 (fun taken c rest hc => ?_) cs
  have hchar : isPathChar c = false := by
    by_contra h
    rw [isBlank_of_isPathChar (by simpa using h)] at hc
    cases hc
  simp [readings, Part.takes, hchar]

theorem readings_packagePattern (line : List Char) :
    readings packagePattern line =
      (readings packagePattern.tail (Text.trimStart line)).map (line.takeWhile Text.isBlank :: ·) := by
  refine Text.flatMap_takeMany (fun taken c rest hc => ?_) line
  have hword : packageWord.isPrefixOf? (c :: rest) = none := by
    have hne : ('p' == c) = false := by
      rw [beq_eq_false_iff_ne]
      rintro rfl
      exact absurd hc (by decide)
    simp [packageWord, List.isPrefixOf?, hne]
  simp [readings, Part.takes, hword]

theorem readings_path (cs : List Char) :
    (readings [.many1 isPathChar] cs).head? =
      if (cs.takeWhile isPathChar).isEmpty then none else some [cs.takeWhile isPathChar] := by
  have hreadings : readings [.many1 isPathChar] cs =
      ((Part.many1 isPathChar).takes cs).map fun taken => [taken.1] := by
    simp [readings, List.map_eq_flatMap]
  rw [hreadings, List.head?_map, Text.head?_takes_many1]
  split <;> rfl

/-- The scanner of one line takes what the pattern takes last. -/
theorem packagePath?_eq_lastTaken? (line : List Char) :
    packagePath? line = lastTaken? packagePattern line := by
  rw [packagePath?, lastTaken?, readings_packagePattern]
  cases hword : packageWord.isPrefixOf? (Text.trimStart line) with
  | none => simp [packagePattern, readings, Part.takes, hword]
  | some rest =>
    have hrest : readings packagePattern.tail (Text.trimStart line) =
        (readings [.many1 Text.isBlank, .many1 isPathChar] rest).map (packageWord :: ·) := by
      simp [packagePattern, readings, Part.takes, hword]
    rw [hrest, readings_gap_path]
    cases rest with
    | nil => rfl
    | cons c rest =>
      by_cases hc : Text.isBlank c = true
      · have hpath := readings_path (Text.trimStart rest)
        rw [Text.trimStart] at hpath
        cases hempty : (rest.dropWhile Text.isBlank).takeWhile isPathChar <;>
          simp [hc, Text.trimStart, hpath, hempty]
      · simp [hc]

/-! ## Blanks around a statement -/

/-- Blanks around a statement belong to what stands before its word and after its path. -/
theorem NamesPackage.padded {line path front back : List Char} (h : NamesPackage line path)
    (hfront : ∀ c ∈ front, Text.isBlank c = true) (hback : ∀ c ∈ back, Text.isBlank c = true) :
    NamesPackage (front ++ line ++ back) path := by
  obtain @⟨before, gap, path, rest, hbefore, hgap, hpath, hrest⟩ := h
  have hline : front ++ (before ++ packageWord ++ gap ++ path ++ rest) ++ back =
      (front ++ before) ++ packageWord ++ gap ++ path ++ (rest ++ back) := by
    simp only [List.append_assoc]
  have hends : ∀ c ∈ (rest ++ back).head?, isPathChar c = false := by
    cases rest with
    | cons c rest => exact hrest
    | nil =>
      intro c hc
      by_contra hchar
      have hblank := isBlank_of_isPathChar (by simpa using hchar)
      rw [hback c (List.mem_of_head? hc)] at hblank
      cases hblank
  rw [hline]
  exact .statement (List.forall_mem_append.2 ⟨hfront, hbefore⟩) hgap hpath hends

theorem NamesPackage.trim {line path : List Char} (h : NamesPackage line path) :
    NamesPackage (Text.trim line) path := by
  obtain @⟨before, gap, path, rest, hbefore, hgap, hpath, hrest⟩ := h
  have hstatement : Text.IsTrimmed (packageWord ++ gap ++ path) :=
    Text.isTrimmed_append _ hpath.1 <|
      Text.isTrimmed_of_forall fun c hc => isBlank_of_isPathChar (hpath.2 c hc)
  have hline : Text.trim (before ++ packageWord ++ gap ++ path ++ rest) =
      packageWord ++ gap ++ path ++ Text.trimEnd rest := by
    have hstart := trimStart_statement hbefore (gap ++ path ++ rest)
    simp only [← List.append_assoc] at hstart
    rw [Text.trim, hstart, Text.trimEnd_append hstatement]
  obtain ⟨blanks, -, hends⟩ := Text.trimEnd_append_blanks rest
  have hfirst : ∀ c ∈ (Text.trimEnd rest).head?, isPathChar c = false := fun c hc =>
    hrest c (by rw [hends, List.head?_append, Option.mem_def.1 hc]; rfl)
  rw [hline]
  exact .statement (List.forall_mem_nil _) hgap hpath hfirst

/-- Blanks around a line do not make or unmake a statement of it. -/
theorem packagePath?_trim (line : List Char) : packagePath? (Text.trim line) = packagePath? line := by
  ext path
  rw [packagePath?_eq_some_iff, packagePath?_eq_some_iff]
  constructor
  · intro h
    obtain ⟨before, after, hline, hbefore, hafter⟩ := Text.exists_padded_trim line
    rw [hline]
    exact h.padded hbefore hafter
  · exact NamesPackage.trim

end PolicyHeader.Source
