import Mathlib.Data.List.TakeWhile
import PolicyHeader.Header
import PolicyHeader.Proofs.Text.Lines

/-!
# Rendered headers

`render` writes header lines as comments, with a package statement and any text below them. A source
text that was written in this way gives back its lines and its package, and the lines of any header
can be written in this way (`Header.ofSource_render`).

The lines of a rendered text are known one by one (`lines_render`). A comment line says what was put
into it (`commentBody?_commentLine`) and names no package; the package statement ends the header
and names its package (`packagePath?_packageLine`).
-/

namespace PolicyHeader.Source

/-! ## Rendering -/

/-- A text that can stand as one line of a header. -/
structure IsHeaderLine (line : String) : Prop where
  newline_not_mem : '\n' ∉ line.toList
  isTrimmed : Text.IsTrimmed line.toList

theorem isHeaderLine_iff {line : String} :
    IsHeaderLine line ↔ '\n' ∉ line.toList ∧ Text.IsTrimmed line.toList :=
  ⟨fun h => ⟨h.newline_not_mem, h.isTrimmed⟩, fun h => ⟨h.1, h.2⟩⟩

instance (line : String) : Decidable (IsHeaderLine line) :=
  decidable_of_iff _ isHeaderLine_iff.symm

/-- A package path: one character or more, each of them one that paths are made of. -/
structure IsPath (path : String) : Prop where
  ne_empty : path ≠ ""
  isPathChar : ∀ c ∈ path.toList, isPathChar c = true

theorem isPath_iff {path : String} :
    IsPath path ↔ path ≠ "" ∧ ∀ c ∈ path.toList, isPathChar c = true :=
  ⟨fun h => ⟨h.ne_empty, h.isPathChar⟩, fun h => ⟨h.1, h.2⟩⟩

instance (path : String) : Decidable (IsPath path) :=
  decidable_of_iff (path ≠ "" ∧ path.toList.all isPathChar = true) (by
    rw [isPath_iff, List.all_eq_true])

/-- A source text that opens with a header of the given lines and a package statement. -/
def render (lines : List String) (path rest : String) : String :=
  String.join (lines.map fun line => "# " ++ line ++ "\n") ++ ("package " ++ path ++ "\n" ++ rest)

/-- The comment that says a line. -/
def commentLine (line : List Char) : List Char :=
  '#' :: ' ' :: line

/-- The statement that names a package. -/
def packageLine (path : List Char) : List Char :=
  packageWord ++ ' ' :: path

/-! ## Package paths -/

theorem isPathChar_iff {c : Char} :
    isPathChar c = true ↔
      ('A' ≤ c ∧ c ≤ 'Z') ∨ ('a' ≤ c ∧ c ≤ 'z') ∨ ('0' ≤ c ∧ c ≤ '9') ∨ c = '_' ∨ c = '.' := by
  have hupper : c.isUpper = true ↔ 'A' ≤ c ∧ c ≤ 'Z' := decide_eq_true_iff
  have hlower : c.isLower = true ↔ 'a' ≤ c ∧ c ≤ 'z' := by
    show (decide ('a' ≤ c) && decide (c ≤ 'z')) = true ↔ _
    rw [Bool.and_eq_true, decide_eq_true_iff, decide_eq_true_iff]
  have hdigit : c.isDigit = true ↔ '0' ≤ c ∧ c ≤ '9' := by
    show (decide ('0' ≤ c) && decide (c ≤ '9')) = true ↔ _
    rw [Bool.and_eq_true, decide_eq_true_iff, decide_eq_true_iff]
  show ((((c.isUpper || c.isLower) || c.isDigit) || c == '_') || c == '.') = true ↔ _
  simp only [Bool.or_eq_true, beq_iff_eq, hupper, hlower, hdigit, or_assoc]

theorem isBlank_of_isPathChar {c : Char} (h : isPathChar c = true) : Text.isBlank c = false := by
  have hbounds : 46 ≤ c.toNat ∧ c.toNat ≤ 122 := by
    rcases isPathChar_iff.1 h with ⟨hlo, hhi⟩ | ⟨hlo, hhi⟩ | ⟨hlo, hhi⟩ | rfl | rfl
    · have hA : 65 ≤ c.toNat := hlo
      have hZ : c.toNat ≤ 90 := hhi
      omega
    · have ha : 97 ≤ c.toNat := hlo
      have hz : c.toNat ≤ 122 := hhi
      omega
    · have h0 : 48 ≤ c.toNat := hlo
      have h9 : c.toNat ≤ 57 := hhi
      omega
    · decide
    · decide
  cases hblank : Text.isBlank c with
  | false => rfl
  | true =>
    obtain ⟨range, hrange, hc⟩ := (Text.Ranges.contains_iff _ c).1 hblank
    simp only [Text.blankRanges, List.mem_cons, List.not_mem_nil, or_false] at hrange
    -- no range of blanks reaches from below the point to above the letters
    rcases hrange with rfl | rfl | rfl | rfl | rfl | rfl | rfl | rfl | rfl | rfl <;> omega

theorem IsPath.exists_cons {path : String} (h : IsPath path) :
    ∃ c rest, path.toList = c :: rest ∧ Text.isBlank c = false := by
  cases hpath : path.toList with
  | nil => exact absurd (String.toList_eq_nil_iff.1 hpath) h.ne_empty
  | cons c rest =>
    have hc : c ∈ path.toList := by rw [hpath]; exact List.mem_cons_self
    exact ⟨c, rest, rfl, isBlank_of_isPathChar (h.isPathChar c hc)⟩

/-! ## Lines of a rendered text -/

theorem isTrimmed_commentLine {line : List Char} (hne : line ≠ []) (h : Text.IsTrimmed line) :
    Text.IsTrimmed (commentLine line) :=
  Text.isTrimmed_append ['#', ' '] hne h

theorem isTrimmed_packageLine {path : String} (h : IsPath path) :
    Text.IsTrimmed (packageLine path.toList) := by
  have hpath : Text.IsTrimmed (' ' :: path.toList) := by
    refine Text.isTrimmed_append [' '] (fun hnil => ?_) (Text.isTrimmed_of_forall fun c hc => ?_)
    · exact h.ne_empty (String.toList_eq_nil_iff.1 hnil)
    · exact isBlank_of_isPathChar (h.isPathChar c hc)
  exact Text.isTrimmed_append packageWord (List.cons_ne_nil _ _) hpath

/-- A comment keeps its end: an empty one ends in its space, any other as its line does. -/
theorem dropReturn_commentLine {line : List Char} (h : Text.IsTrimmed line) :
    Text.dropReturn (commentLine line) = commentLine line := by
  cases line with
  | nil => decide
  | cons c rest =>
    exact Text.dropReturn_of_isTrimmed (isTrimmed_commentLine (List.cons_ne_nil c rest) h)

theorem newline_not_mem_packageLine {path : String} (h : IsPath path) :
    '\n' ∉ packageLine path.toList := by
  intro hmem
  rw [packageLine, List.mem_append, List.mem_cons] at hmem
  rcases hmem with hmem | hmem | hmem
  · exact absurd hmem (by decide)
  · exact absurd hmem (by decide)
  · exact absurd (h.isPathChar '\n' hmem) (by decide)

theorem toList_render_nil (path rest : String) :
    (render [] path rest).toList = packageLine path.toList ++ '\n' :: rest.toList := by
  simp [render, packageLine, packageWord]

theorem toList_render_cons (line : String) (lines : List String) (path rest : String) :
    (render (line :: lines) path rest).toList =
      commentLine line.toList ++ '\n' :: (render lines path rest).toList := by
  simp [render, commentLine, String.toList_join]

/-- The lines of a rendered text are its comments, its package statement, and the lines below. -/
theorem lines_render {lines : List String} {path : String}
    (hlines : ∀ line ∈ lines, IsHeaderLine line) (hpath : IsPath path) (rest : String) :
    Text.lines (render lines path rest).toList =
      lines.map (fun line => commentLine line.toList) ++
        packageLine path.toList :: Text.lines rest.toList := by
  induction lines with
  | nil =>
    rw [toList_render_nil, Text.lines_append_newline (newline_not_mem_packageLine hpath),
      Text.dropReturn_of_isTrimmed (isTrimmed_packageLine hpath)]
    rfl
  | cons line lines ih =>
    have hline := hlines line List.mem_cons_self
    have hnewline : '\n' ∉ commentLine line.toList := by
      simpa [commentLine] using hline.newline_not_mem
    rw [toList_render_cons, Text.lines_append_newline hnewline,
      dropReturn_commentLine hline.isTrimmed,
      ih fun other hother => hlines other (List.mem_cons_of_mem _ hother)]
    rfl

/-! ## Comments of a rendered text -/

/-- A comment says the line that was put into it. Only the mark is left of an empty one. -/
theorem commentBody?_commentLine {line : List Char} (h : Text.IsTrimmed line) :
    commentBody? (commentLine line) = some line := by
  cases line with
  | nil => decide
  | cons c rest =>
    have htrim : Text.trim (commentLine (c :: rest)) = commentLine (c :: rest) :=
      Text.trim_of_isTrimmed (by decide) (isTrimmed_commentLine (List.cons_ne_nil c rest) h)
    rw [commentBody?, htrim, commentLine]
    simp only [Text.trimEnd_of_isTrimmed h]

/-- A package statement ends the header, whether it has started or not. -/
theorem commentsFrom_packageLine {path : String} (h : IsPath path) (started : Bool)
    (rest : List (List Char)) : commentsFrom started (packageLine path.toList :: rest) = [] := by
  have htrim : Text.trim (packageLine path.toList) = packageLine path.toList :=
    Text.trim_of_isTrimmed (by decide) (isTrimmed_packageLine h)
  have hbody : commentBody? (packageLine path.toList) = none := by
    rw [commentBody?, htrim]
    rfl
  have hblank : Text.isAllBlank (packageLine path.toList) = false := by
    rw [Text.isAllBlank, packageLine, List.all_append]
    rfl
  rw [commentsFrom, hbody, hblank, Bool.and_false]
  rfl

theorem commentsFrom_render {lines : List String} {path : String}
    (hlines : ∀ line ∈ lines, IsHeaderLine line) (hpath : IsPath path) (started : Bool)
    (below : List (List Char)) :
    commentsFrom started (lines.map (fun line => commentLine line.toList) ++
      packageLine path.toList :: below) = lines.map String.toList := by
  induction lines generalizing started with
  | nil => exact commentsFrom_packageLine hpath started below
  | cons line lines ih =>
    have hbody := commentBody?_commentLine (hlines line List.mem_cons_self).isTrimmed
    rw [List.map_cons, List.cons_append, commentsFrom, hbody]
    simp only [List.map_cons]
    rw [ih (fun other hother => hlines other (List.mem_cons_of_mem _ hother))]

theorem comments_render {lines : List String} {path : String}
    (hlines : ∀ line ∈ lines, IsHeaderLine line) (hpath : IsPath path) (rest : String) :
    comments (render lines path rest) = lines := by
  rw [comments, lines_render hlines hpath, commentsFrom_render hlines hpath, List.map_map]
  simp [Function.comp_def]

/-! ## Package of a rendered text -/

theorem packagePath?_commentLine (line : List Char) : packagePath? (commentLine line) = none :=
  rfl

theorem packagePath?_packageLine {path : String} (h : IsPath path) :
    packagePath? (packageLine path.toList) = some path.toList := by
  obtain ⟨c, rest, hpath, hc⟩ := h.exists_cons
  have hstart : Text.trimStart path.toList = path.toList := by
    rw [hpath, Text.trimStart_of_head hc]
  have htake : path.toList.takeWhile isPathChar = path.toList :=
    List.takeWhile_eq_self_iff.2 h.isPathChar
  have hne : path.toList.isEmpty = false := by rw [hpath]; rfl
  have hword : packageWord.isPrefixOf? (Text.trimStart (packageLine path.toList)) =
      some (' ' :: path.toList) := rfl
  rw [packagePath?, hword]
  simp [hstart, htake, hne, show Text.isBlank ' ' = true from rfl]

theorem package?_render {lines : List String} {path : String}
    (hlines : ∀ line ∈ lines, IsHeaderLine line) (hpath : IsPath path) (rest : String) :
    package? (render lines path rest) = some path := by
  have hcomments : (lines.map fun line => commentLine line.toList).findSome? packagePath? = none := by
    rw [List.findSome?_eq_none_iff]
    intro line hline
    obtain ⟨said, -, rfl⟩ := List.mem_map.1 hline
    exact packagePath?_commentLine said.toList
  rw [package?, lines_render hlines hpath, List.findSome?_append, hcomments, Option.none_or,
    List.findSome?_cons, packagePath?_packageLine hpath]
  simp

/-! ## Headers of any text -/

/-- What a comment says is a part of its line that ends in no blank. -/
theorem of_commentBody? {line body : List Char} (h : commentBody? line = some body) :
    Text.IsTrimmed body ∧ ∀ c ∈ body, c ∈ line := by
  -- with or without the space after the mark, what is said is cut from the trimmed line
  have hpart : ∃ said, body = Text.trimEnd said ∧ ∀ c ∈ said, c ∈ Text.trim line := by
    rw [commentBody?] at h
    split at h
    · next said hline =>
      refine ⟨said, (Option.some.inj h).symm, fun c hc => ?_⟩
      rw [hline]
      exact List.mem_cons_of_mem _ (List.mem_cons_of_mem _ hc)
    · next said _ hline =>
      refine ⟨said, (Option.some.inj h).symm, fun c hc => ?_⟩
      rw [hline]
      exact List.mem_cons_of_mem _ hc
    · cases h
  obtain ⟨said, rfl, hsaid⟩ := hpart
  exact ⟨Text.isTrimmed_trimEnd said,
    fun c hc => Text.mem_of_mem_trim (hsaid c (Text.mem_of_mem_trimEnd hc))⟩

theorem exists_of_mem_commentsFrom {started : Bool} {lines : List (List Char)} {body : List Char}
    (h : body ∈ commentsFrom started lines) : ∃ line ∈ lines, commentBody? line = some body := by
  induction lines generalizing started with
  | nil => cases h
  | cons line lines ih =>
    have hrest {next : Bool} (h : body ∈ commentsFrom next lines) :
        ∃ found ∈ line :: lines, commentBody? found = some body := by
      obtain ⟨found, hfound, hbody⟩ := ih h
      exact ⟨found, List.mem_cons_of_mem _ hfound, hbody⟩
    rw [commentsFrom] at h
    cases hline : commentBody? line with
    | some said =>
      rw [hline] at h
      rcases List.mem_cons.1 h with rfl | h
      · exact ⟨line, List.mem_cons_self, hline⟩
      · exact hrest h
    | none =>
      simp only [hline] at h
      split at h
      · exact hrest h
      · cases h

theorem isHeaderLine_of_mem_comments {source line : String} (h : line ∈ comments source) :
    IsHeaderLine line := by
  obtain ⟨body, hbody, rfl⟩ := List.mem_map.1 h
  obtain ⟨found, hfound, hsaid⟩ := exists_of_mem_commentsFrom hbody
  obtain ⟨htrimmed, hmem⟩ := of_commentBody? hsaid
  have hnewline := Text.newline_not_mem_of_mem_lines hfound
  refine ⟨?_, ?_⟩
  · rw [String.toList_ofList]
    exact fun hc => hnewline (hmem '\n' hc)
  · rw [String.toList_ofList]
    exact htrimmed

theorem isPath_of_package? {source path : String} (h : package? source = some path) :
    IsPath path := by
  obtain ⟨chars, hfound, rfl⟩ := Option.map_eq_some_iff.1 h
  obtain ⟨line, -, hpath⟩ := List.exists_of_findSome?_eq_some hfound
  unfold packagePath? at hpath
  split at hpath
  · split at hpath
    · next rest _ =>
      simp only [Option.ite_none_left_eq_some, Option.some.injEq] at hpath
      obtain ⟨hne, rfl⟩ := hpath
      refine ⟨fun hempty => ?_, fun c hc => ?_⟩
      · rw [← String.toList_eq_nil_iff, String.toList_ofList] at hempty
        simp [hempty] at hne
      · rw [String.toList_ofList] at hc
        exact List.mem_takeWhile_imp hc
    · cases hpath
  · cases hpath

end PolicyHeader.Source

namespace PolicyHeader.Header

open Source

/-- A text written from header lines and a package gives both back, whatever stands below. The lines
and the package of any header can be written, so a header that is read off, written and read again
is the same header. -/
theorem ofSource_render :
    (∀ (lines : List String) (path rest : String),
      (∀ line ∈ lines, IsHeaderLine line) → IsPath path →
        ofSource (render lines path rest) = ⟨none, some path, lines⟩) ∧
    ∀ source : String,
      (∀ line ∈ (ofSource source).lines, IsHeaderLine line) ∧
      (∀ path, (ofSource source).package = some path → IsPath path ∧
        ∀ rest, ofSource (render (ofSource source).lines path rest) = ofSource source) ∧
      ∀ path rest, IsPath path →
        ofSource (render (ofSource source).lines path rest) =
          { ofSource source with package := some path } := by
  have hwritten (lines : List String) (path rest : String)
      (hlines : ∀ line ∈ lines, IsHeaderLine line) (hpath : IsPath path) :
      ofSource (render lines path rest) = ⟨none, some path, lines⟩ := by
    rw [ofSource, package?_render hlines hpath, comments_render hlines hpath]
  refine ⟨hwritten, fun source => ?_⟩
  have hlines : ∀ line ∈ (ofSource source).lines, IsHeaderLine line :=
    fun line hline => isHeaderLine_of_mem_comments hline
  refine ⟨hlines, fun path hpackage => ?_, fun path rest => hwritten _ path rest hlines⟩
  have hpath := isPath_of_package? hpackage
  refine ⟨hpath, fun rest => ?_⟩
  rw [hwritten _ path rest hlines hpath, ← hpackage]
  rfl

/-- The lines may be empty, indented, marked as comments themselves, or hold carriage returns. -/
theorem ofSource_render_of_odd_lines :
    ofSource (render ["", "  indented", "# marked", "a\rb"] "lib.core" "# below\npackage other\n") =
        ⟨none, some "lib.core", ["", "  indented", "# marked", "a\rb"]⟩ ∧
      ofSource "#@kinds Pod\n#\npackage a-b" = ⟨none, some "a", ["@kinds Pod", ""]⟩ ∧
      ofSource (render ["@kinds Pod", ""] "a" "") = ofSource "#@kinds Pod\n#\npackage a-b" := by
  obtain ⟨hwritten, hread⟩ := ofSource_render
  have hheader : ofSource "#@kinds Pod\n#\npackage a-b" = ⟨none, some "a", ["@kinds Pod", ""]⟩ := rfl
  obtain ⟨-, hagain, -⟩ := hread "#@kinds Pod\n#\npackage a-b"
  rw [hheader] at hagain ⊢
  exact ⟨hwritten _ _ _ (by decide) (by decide), rfl, (hagain "a" rfl).2 ""⟩

end PolicyHeader.Header
