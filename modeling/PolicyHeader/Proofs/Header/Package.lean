import PolicyHeader.Proofs.Header.Comments
import PolicyHeader.Proofs.Header.Statement

/-!
# The package of a source text

The package of a text is the one that its first package statement names (`package?_eq_some_iff_first`). No
blank line and no comment is a statement, so the text below the header (`belowHeader`) has the same package.
-/

namespace PolicyHeader.Source

/-! ## Lines that name no package -/

theorem packagePath?_of_isAllBlank {line : List Char} (h : Text.isAllBlank line = true) :
    packagePath? line = none := by
  rw [← packagePath?_trim, Text.trim_eq_nil_iff.2 h]
  rfl

theorem packagePath?_of_isComment {line : List Char} (h : isComment line = true) :
    packagePath? line = none := by
  obtain ⟨rest, hline⟩ := List.head?_eq_some_iff.1 (of_decide_eq_true h)
  rw [← packagePath?_trim, hline]
  rfl

/-! ## The text below the header -/

/-- The text below the header: the blank lines in front and the comments of the header are left out, each
with its line end. -/
def belowHeader (source : String) : String :=
  String.ofList <| ['\n'].intercalate <|
    ((source.toList.splitOn '\n').dropWhile Text.isAllBlank).dropWhile isComment

theorem isAllBlank_dropReturn (line : List Char) :
    Text.isAllBlank (Text.dropReturn line) = Text.isAllBlank line :=
  Text.isAllBlank_of_trim_eq (Text.trim_dropReturn line)

theorem isComment_dropReturn (line : List Char) : isComment (Text.dropReturn line) = isComment line := by
  rw [isComment, isComment, Text.trim_dropReturn]

/-- The lines of the text below the header are the lines below the header. -/
theorem lines_belowHeader (source : String) :
    Text.lines (belowHeader source).toList =
      ((Text.lines source.toList).dropWhile Text.isAllBlank).dropWhile isComment := by
  have hpieces : ∀ piece ∈ ((source.toList.splitOn '\n').dropWhile Text.isAllBlank).dropWhile isComment,
      '\n' ∉ piece := fun piece hpiece =>
    Text.newline_not_mem_of_mem_splitOn (List.dropWhile_subset _ (List.dropWhile_subset _ hpiece))
  rw [belowHeader, String.toList_ofList, Text.lines_intercalate hpieces,
    Text.closeLines_dropWhile isComment_dropReturn, Text.closeLines_dropWhile isAllBlank_dropReturn,
    Text.lines]

theorem intercalate_suffix {α : Type} (separator : List α) {xs ys : List (List α)} (h : xs <:+ ys) :
    separator.intercalate xs <:+ separator.intercalate ys := by
  obtain ⟨front, rfl⟩ := h
  induction front with
  | nil => exact List.suffix_rfl
  | cons piece rest ih =>
    by_cases hrest : rest ++ xs = []
    · obtain ⟨-, rfl⟩ := List.append_eq_nil_iff.1 hrest
      exact List.nil_suffix
    · rw [List.cons_append, List.intercalate_cons_of_ne_nil hrest]
      exact ih.trans (List.suffix_append _ _)

theorem belowHeader_suffix (source : String) : (belowHeader source).toList <:+ source.toList := by
  have hpieces := (List.dropWhile_suffix isComment).trans <|
    List.dropWhile_suffix (l := source.toList.splitOn '\n') Text.isAllBlank
  have hsource := intercalate_suffix ['\n'] hpieces
  rw [List.intercalate_splitOn] at hsource
  rwa [belowHeader, String.toList_ofList]

/-- Nothing is found among what is left out in front. -/
theorem findSome?_dropWhile {α β : Type} {p : α → Bool} {f : α → Option β}
    (h : ∀ x, p x = true → f x = none) (xs : List α) :
    (xs.dropWhile p).findSome? f = xs.findSome? f := by
  have htaken : (xs.takeWhile p).findSome? f = none :=
    List.findSome?_eq_none_iff.2 fun x hx => h x (List.mem_takeWhile_imp hx)
  conv => rhs; rw [← List.takeWhile_append_dropWhile (p := p) (l := xs)]
  rw [List.findSome?_append, htaken, Option.none_or]

theorem package?_belowHeader (source : String) : package? (belowHeader source) = package? source := by
  rw [package?, package?, lines_belowHeader, findSome?_dropWhile fun _ => packagePath?_of_isComment,
    findSome?_dropWhile fun _ => packagePath?_of_isAllBlank]

/-! ## The first statement -/

/-- **The first package statement names the package**, and a text has none only if no line is a statement:
what the pattern takes last from the first line that it matches is the path of the first statement. The
header never gives the package: the lines of a text are the blank lines in front, the comments of its
header, and the lines of the text below, which has the same package. -/
theorem package?_eq_some_iff_first :
    (∀ source : String, package? source =
      ((Text.lines source.toList).findSome? (Text.lastTaken? packagePattern)).map String.ofList) ∧
    (∀ source path : String, package? source = some path ↔
      ∃ before line after, Text.lines source.toList = before ++ line :: after ∧
        NamesPackage line path.toList ∧ ∀ earlier ∈ before, ∀ other, ¬ NamesPackage earlier other) ∧
    (∀ source : String, package? source = none ↔
      ∀ line ∈ Text.lines source.toList, ∀ path, ¬ NamesPackage line path) ∧
    ∀ source : String,
      (belowHeader source).toList <:+ source.toList ∧
      Text.lines source.toList =
        (Text.lines source.toList).takeWhile Text.isAllBlank ++
          headerBlock (Text.lines source.toList) ++ Text.lines (belowHeader source).toList ∧
      comments source = (headerBlock (Text.lines source.toList)).map
        (fun line => String.ofList (commentText line)) ∧
      package? (belowHeader source) = package? source := by
  refine ⟨fun source => ?_, fun source path => ?_, fun source => ?_, fun source =>
    ⟨belowHeader_suffix source, ?_, comments_eq source, package?_belowHeader source⟩⟩
  · have hpattern : packagePath? = Text.lastTaken? packagePattern := funext packagePath?_eq_lastTaken?
    rw [package?, hpattern]
  · have hpath : package? source = some path ↔
        (Text.lines source.toList).findSome? packagePath? = some path.toList := by
      rw [package?, Option.map_eq_some_iff]
      constructor
      · rintro ⟨found, hfound, rfl⟩
        rw [hfound, String.toList_ofList]
      · exact fun h => ⟨path.toList, h, String.ofList_toList⟩
    rw [hpath, List.findSome?_eq_some_iff]
    simp only [packagePath?_eq_some_iff, packagePath?_eq_none_iff]
  · rw [package?, Option.map_eq_none_iff, List.findSome?_eq_none_iff]
    simp only [packagePath?_eq_none_iff]
  · rw [lines_belowHeader, headerBlock, List.append_assoc, List.takeWhile_append_dropWhile,
      List.takeWhile_append_dropWhile]

/-- Lines that come close to a statement, and a statement after them. -/
def nearMisses : String :=
  "# package a\npackage\npackages b\npackage.c\n\tpackage \u3000lib.core-x\r\npackage d"

/-- The word needs a blank and a path after it, and the path ends where a dash follows. -/
theorem package?_eq_some_iff_first_of_nearMisses :
    package? nearMisses = some "lib.core" ∧
      NamesPackage "\tpackage \u3000lib.core-x".toList "lib.core".toList ∧
      package? (belowHeader nearMisses) = package? nearMisses ∧
      Text.lines (belowHeader nearMisses).toList = (Text.lines nearMisses.toList).drop 1 := by
  obtain ⟨-, hsome, -, hbelow⟩ := package?_eq_some_iff_first
  have hstatement : NamesPackage "\tpackage \u3000lib.core-x".toList "lib.core".toList :=
    packagePath?_eq_some_iff.1 rfl
  have hlines : Text.lines nearMisses.toList =
      ["# package a".toList, "package".toList, "packages b".toList, "package.c".toList] ++
        "\tpackage \u3000lib.core-x".toList :: ["package d".toList] := by
    decide +kernel
  have hearlier : ∀ earlier ∈ ["# package a".toList, "package".toList, "packages b".toList,
      "package.c".toList], packagePath? earlier = none := by
    decide
  have hbelowLines : Text.lines (belowHeader nearMisses).toList =
      (Text.lines nearMisses.toList).drop 1 := by
    decide +kernel
  have hfirst : package? nearMisses = some "lib.core" :=
    (hsome nearMisses "lib.core").2 ⟨_, _, _, hlines, hstatement, fun earlier h =>
      packagePath?_eq_none_iff.1 (hearlier earlier h)⟩
  exact ⟨hfirst, hstatement, (hbelow nearMisses).2.2.2, hbelowLines⟩

end PolicyHeader.Source
