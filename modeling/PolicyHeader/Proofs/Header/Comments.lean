import Mathlib.Data.List.TakeWhile
import PolicyHeader.Header.Source
import PolicyHeader.Proofs.Text.Lines

/-!
# The comments of a header

The header of a source text is found in two steps: the blank lines in front are passed over, and the
comments from there up to the first other line are its lines (`comments_eq_block`). So the header is
settled as soon as some line ends it, and the text below is of no account.
-/

namespace PolicyHeader.Source

/-- A comment line: the first character that is no blank is the mark. -/
def isComment (line : List Char) : Bool :=
  (Text.trim line).head? = some '#'

/-- A text without the space that it may open with. -/
def dropSpace : List Char → List Char
  | ' ' :: rest => rest
  | cs => cs

/-- What a comment line says: it is trimmed, and its mark and at most one space are left out. -/
def commentText (line : List Char) : List Char :=
  Text.trimEnd (dropSpace ((Text.trim line).drop 1))

/-- The comment lines of the header: those below the blank lines in front, up to the first line that is no
comment. -/
def headerBlock (lines : List (List Char)) : List (List Char) :=
  (lines.dropWhile Text.isAllBlank).takeWhile isComment

/-! ## One line -/

theorem commentBody?_eq (line : List Char) :
    commentBody? line = if isComment line then some (commentText line) else none := by
  rw [commentBody?, isComment, commentText]
  split
  · next body hline => simp [hline, dropSpace]
  · next body hspace hline =>
    have hbody : dropSpace body = body := by
      rw [dropSpace]
      exact hspace
    simp [hline, hbody]
  · next hmark =>
    have hhead : (Text.trim line).head? ≠ some '#' := by
      intro hhead
      obtain ⟨rest, hline⟩ := List.head?_eq_some_iff.1 hhead
      exact hmark rest hline
    simp [hhead]

/-- A comment is more than blanks. -/
theorem isAllBlank_of_isComment {line : List Char} (h : isComment line = true) :
    Text.isAllBlank line = false := by
  rw [Bool.eq_false_iff, Ne, ← Text.trim_eq_nil_iff]
  intro hnil
  simp [isComment, hnil] at h

/-! ## The lines of a text -/

/-- Once the header has started, blank lines are not passed over any more. -/
theorem commentsFrom_true (lines : List (List Char)) :
    commentsFrom true lines = (lines.takeWhile isComment).map commentText := by
  induction lines with
  | nil => rfl
  | cons line rest ih =>
    rw [commentsFrom, commentBody?_eq]
    cases hcomment : isComment line <;> simp [hcomment, ih]

theorem commentsFrom_false (lines : List (List Char)) :
    commentsFrom false lines = (headerBlock lines).map commentText := by
  induction lines with
  | nil => rfl
  | cons line rest ih =>
    rw [commentsFrom, commentBody?_eq, headerBlock]
    -- a comment is no blank line, so the first comment is where the blank lines in front end
    cases hcomment : isComment line with
    | true => simp [hcomment, isAllBlank_of_isComment hcomment, commentsFrom_true]
    | false => cases hblank : Text.isAllBlank line <;> simp [hcomment, hblank, ih, headerBlock]

theorem comments_eq (source : String) :
    comments source = (headerBlock (Text.lines source.toList)).map fun line =>
      String.ofList (commentText line) := by
  rw [comments, commentsFrom_false, List.map_map]
  rfl

/-- A line that ends the header ends it in any longer text. -/
theorem headerBlock_append {first : List (List Char)}
    (h : ∃ line ∈ first.dropWhile Text.isAllBlank, isComment line = false)
    (second : List (List Char)) : headerBlock (first ++ second) = headerBlock first := by
  obtain ⟨line, hline, hother⟩ := h
  have hne : (first.dropWhile Text.isAllBlank).isEmpty = false := by
    simpa using List.ne_nil_of_mem hline
  have hends : ((first.dropWhile Text.isAllBlank).takeWhile isComment).length ≠
      (first.dropWhile Text.isAllBlank).length := by
    intro hlength
    have hall := (List.takeWhile_prefix isComment).eq_of_length hlength
    rw [← hall] at hline
    rw [List.mem_takeWhile_imp hline] at hother
    cases hother
  rw [headerBlock, List.dropWhile_append, hne, if_neg Bool.false_ne_true, List.takeWhile_append,
    if_neg hends, headerBlock]

/-- **The header is the first block of comments.** It is what is left of the lines when the blank lines in
front are dropped and the comments from there are taken. And where a line below the blank ones is no
comment, the header is the same whatever is written below a text that ends in a line feed. -/
theorem comments_eq_block :
    (∀ source : String,
      comments source =
        (((Text.lines source.toList).dropWhile Text.isAllBlank).takeWhile isComment).map fun line =>
          String.ofList (commentText line)) ∧
    ∀ source below : String, source.toList.getLast? = some '\n' →
      (∃ line ∈ (Text.lines source.toList).dropWhile Text.isAllBlank, isComment line = false) →
        comments (source ++ below) = comments source := by
  refine ⟨comments_eq, fun source below hend hother => ?_⟩
  rw [comments_eq, comments_eq, String.toList_append, Text.lines_append hend,
    headerBlock_append hother]

/-- A blank line ends the header as well as a statement does, and a comment may be empty. -/
theorem comments_eq_block_of_blank_line :
    comments " \n\t# @kinds Pod \n#\n#  a\r\n \n" = ["@kinds Pod", "", " a"] ∧
    comments (" \n\t# @kinds Pod \n#\n#  a\r\n \n" ++ "# @title below\npackage a") =
      ["@kinds Pod", "", " a"] := by
  have hread : comments " \n\t# @kinds Pod \n#\n#  a\r\n \n" = ["@kinds Pod", "", " a"] := rfl
  refine ⟨hread, ?_⟩
  rw [comments_eq_block.2 _ _ (by decide) ⟨[' '], by decide, by decide⟩, hread]

end PolicyHeader.Source
