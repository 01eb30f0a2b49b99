import PolicyHeader.Proofs.Header.Package

/-!
# The layout of a source text

A text lays out segments on lines of their own: with blanks around each, and with a line feed, or a carriage
return and a line feed, between one and the next (`LaysOut`). Header and package are told from the pieces
between the line feeds, each of them trimmed (`Header.ofSource_of_trimmedPieces`), and a carriage return
before a line feed is trimmed with the other blanks. So texts that lay out the same segments have the same
header, and a text may be indented, padded and converted from one kind of line end to the other
(`Header.ofSource_of_laysOut`).
-/

namespace PolicyHeader.Source

/-- Blanks that stay on their line. -/
def IsPadding (s : String) : Prop :=
  ∀ c ∈ s.toList, Text.isBlank c = true ∧ c ≠ '\n'

instance (s : String) : Decidable (IsPadding s) :=
  List.decidableBAll (fun c => Text.isBlank c = true ∧ c ≠ '\n') s.toList

/-- What ends a line that others follow. -/
inductive IsLineEnd : String → Prop
  | feed : IsLineEnd "\n"
  | returnAndFeed : IsLineEnd "\r\n"

/-- A text that holds segments in order, each with padding of its own on both sides, and a line end between
one and the next. -/
inductive LaysOut : List String → String → Prop
  | nothing : LaysOut [] ""
  | last {before after : String} (segment : String) (hbefore : IsPadding before)
      (hafter : IsPadding after) : LaysOut [segment] (before ++ segment ++ after)
  | more {before after lineEnd text : String} {rest : List String} (segment : String)
      (hbefore : IsPadding before) (hafter : IsPadding after) (hend : IsLineEnd lineEnd)
      (hrest : rest ≠ []) (h : LaysOut rest text) :
      LaysOut (segment :: rest) (before ++ segment ++ after ++ lineEnd ++ text)

/-! ## Pieces between line feeds -/

/-- The pieces of a text between its line feeds, where a carriage return in front of a line feed belongs to
the line end. -/
def dropReturns : List (List Char) → List (List Char)
  | [] => []
  | [last] => [last]
  | piece :: next :: rest => Text.dropReturn piece :: dropReturns (next :: rest)

/-- A last piece that is empty is no line, and all others are. -/
theorem dropReturns_eq_closeLines (pieces : List (List Char)) :
    dropReturns pieces = Text.closeLines pieces ∨
      dropReturns pieces = Text.closeLines pieces ++ [[]] := by
  induction pieces with
  | nil => exact .inl rfl
  | cons piece rest ih =>
    cases rest with
    | nil => cases piece <;> simp [dropReturns, Text.closeLines]
    | cons next rest =>
      rw [dropReturns, Text.closeLines]
      exact ih.imp (congrArg _) (congrArg _)

theorem map_trim_dropReturns (pieces : List (List Char)) :
    (dropReturns pieces).map Text.trim = pieces.map Text.trim := by
  induction pieces with
  | nil => rfl
  | cons piece rest ih =>
    cases rest with
    | nil => rfl
    | cons next rest => rw [dropReturns, List.map_cons, ih, Text.trim_dropReturn, ← List.map_cons]

/-- The pieces of a text between its line feeds, trimmed. -/
def trimmedPieces (source : String) : List (List Char) :=
  (source.toList.splitOn '\n').map Text.trim

theorem commentsFrom_map_trim (started : Bool) (lines : List (List Char)) :
    commentsFrom started (lines.map Text.trim) = commentsFrom started lines := by
  induction lines generalizing started with
  | nil => rfl
  | cons line rest ih =>
    have hbody : commentBody? (Text.trim line) = commentBody? line := by
      rw [commentBody?, commentBody?, Text.trim_trim]
    have hblank : Text.isAllBlank (Text.trim line) = Text.isAllBlank line :=
      Text.isAllBlank_of_trim_eq (Text.trim_trim line)
    rw [List.map_cons, commentsFrom, commentsFrom, hbody, hblank]
    simp only [ih]

theorem commentsFrom_append_nil (started : Bool) (lines : List (List Char)) :
    commentsFrom started (lines ++ [[]]) = commentsFrom started lines := by
  induction lines generalizing started with
  | nil => cases started <;> rfl
  | cons line rest ih => simp only [List.cons_append, commentsFrom, ih]

theorem comments_eq_trimmedPieces (source : String) :
    comments source = (commentsFrom false (trimmedPieces source)).map String.ofList := by
  rw [comments, trimmedPieces, ← map_trim_dropReturns, commentsFrom_map_trim, Text.lines]
  rcases dropReturns_eq_closeLines (source.toList.splitOn '\n') with h | h
  · rw [h]
  · rw [h, commentsFrom_append_nil]

theorem package?_eq_trimmedPieces (source : String) :
    package? source = ((trimmedPieces source).findSome? packagePath?).map String.ofList := by
  have htrim (lines : List (List Char)) :
      (lines.map Text.trim).findSome? packagePath? = lines.findSome? packagePath? := by
    rw [List.findSome?_map]
    exact congrArg (lines.findSome? ·) (funext packagePath?_trim)
  have hnil : [[]].findSome? packagePath? = none := rfl
  rw [package?, trimmedPieces, ← map_trim_dropReturns, htrim, Text.lines]
  rcases dropReturns_eq_closeLines (source.toList.splitOn '\n') with h | h
  · rw [h]
  · rw [h, List.findSome?_append, hnil, Option.or_none]

/-! ## Pieces of a laid out text -/

theorem IsPadding.isBlank {s : String} (h : IsPadding s) : ∀ c ∈ s.toList, Text.isBlank c = true :=
  fun c hc => (h c hc).1

theorem IsPadding.newline_not_mem {s : String} (h : IsPadding s) : '\n' ∉ s.toList :=
  fun hc => (h '\n' hc).2 rfl

theorem isPadding_empty : IsPadding "" := by
  decide

theorem IsPadding.append {s t : String} (hs : IsPadding s) (ht : IsPadding t) : IsPadding (s ++ t) := by
  rw [IsPadding, String.toList_append]
  exact List.forall_mem_append.2 ⟨hs, ht⟩

/-- A line end is padding and a line feed. -/
theorem IsLineEnd.exists_padding {lineEnd : String} (h : IsLineEnd lineEnd) :
    ∃ padding, IsPadding padding ∧ lineEnd = padding ++ "\n" := by
  cases h with
  | feed => exact ⟨"", isPadding_empty, rfl⟩
  | returnAndFeed => exact ⟨"\r", by decide, rfl⟩

section padded

variable {before segment after : String} (hbefore : IsPadding before) (hafter : IsPadding after)
  (hsegment : '\n' ∉ segment.toList)
include hbefore hafter

theorem trim_padded : Text.trim (before ++ segment ++ after).toList = Text.trim segment.toList := by
  rw [String.toList_append, String.toList_append, Text.trim_padded hbefore.isBlank hafter.isBlank]

include hsegment

theorem newline_not_mem_padded : '\n' ∉ (before ++ segment ++ after).toList := by
  simp [hbefore.newline_not_mem, hafter.newline_not_mem, hsegment]

theorem trimmedPieces_padded :
    trimmedPieces (before ++ segment ++ after) = [Text.trim segment.toList] := by
  rw [trimmedPieces, List.splitOn_eq_singleton (newline_not_mem_padded hbefore hafter hsegment),
    List.map_singleton, trim_padded hbefore hafter]

theorem trimmedPieces_padded_append {lineEnd : String} (hend : IsLineEnd lineEnd) (text : String) :
    trimmedPieces (before ++ segment ++ after ++ lineEnd ++ text) =
      Text.trim segment.toList :: trimmedPieces text := by
  obtain ⟨padding, hpadding, rfl⟩ := hend.exists_padding
  have hback := hafter.append hpadding
  have htext : (before ++ segment ++ after ++ (padding ++ "\n") ++ text).toList =
      (before ++ segment ++ (after ++ padding)).toList ++ '\n' :: text.toList := by
    simp
  rw [trimmedPieces, htext,
    List.splitOn_append_cons_self_of_not_mem (newline_not_mem_padded hbefore hback hsegment),
    List.map_cons, trim_padded hbefore hback, trimmedPieces]

end padded

/-- The pieces of a laid out text are trimmed as the segments are. -/
theorem LaysOut.trimmedPieces_eq {segments : List String} {text : String} (h : LaysOut segments text)
    (hne : segments ≠ []) (hsegments : ∀ segment ∈ segments, '\n' ∉ segment.toList) :
    trimmedPieces text = segments.map fun segment => Text.trim segment.toList := by
  -- on the layout: without segments there is one empty piece, so the rest of a text has to have some
  induction h with
  | nothing => exact absurd rfl hne
  | last segment hbefore hafter =>
    exact trimmedPieces_padded hbefore hafter (hsegments segment List.mem_cons_self)
  | more segment hbefore hafter hend hrest _ ih =>
    obtain ⟨hsegment, hsegments⟩ := List.forall_mem_cons.1 hsegments
    rw [trimmedPieces_padded_append hbefore hafter hsegment hend, ih hrest hsegments, List.map_cons]

/-! ## Segments of a text -/

/-- Segments with the same padding around each and the same line end between them. -/
theorem laysOut_intercalate {before after lineEnd : String} (hbefore : IsPadding before)
    (hafter : IsPadding after) (hend : IsLineEnd lineEnd) (segments : List String) :
    LaysOut segments (lineEnd.intercalate (segments.map fun segment => before ++ segment ++ after)) := by
  induction segments with
  | nil => exact .nothing
  | cons segment rest ih =>
    cases rest with
    | nil =>
      rw [List.map_singleton, String.intercalate_singleton]
      exact .last segment hbefore hafter
    | cons next rest =>
      rw [List.map_cons, List.map_cons, String.intercalate_cons_cons]
      exact .more segment hbefore hafter hend (List.cons_ne_nil _ _) ih

/-- What stands between the line ends of a text, whichever kind they are of. -/
def segments (source : String) : List String :=
  (dropReturns (source.toList.splitOn '\n')).map String.ofList

theorem newline_not_mem_of_mem_segments {source segment : String} (h : segment ∈ segments source) :
    '\n' ∉ segment.toList := by
  obtain ⟨piece, hpiece, rfl⟩ := List.mem_map.1 h
  rw [String.toList_ofList]
  rcases dropReturns_eq_closeLines (source.toList.splitOn '\n') with heq | heq
  · rw [heq] at hpiece
    exact Text.newline_not_mem_of_mem_lines hpiece
  · rw [heq, List.mem_append, List.mem_singleton] at hpiece
    rcases hpiece with hpiece | rfl
    · exact Text.newline_not_mem_of_mem_lines hpiece
    · exact List.not_mem_nil

theorem exists_lineEnd (piece : List Char) :
    ∃ lineEnd, IsLineEnd lineEnd ∧
      String.ofList piece ++ "\n" = String.ofList (Text.dropReturn piece) ++ lineEnd := by
  rw [Text.dropReturn]
  split
  · next hlast =>
    obtain ⟨front, rfl⟩ := List.getLast?_eq_some_iff.1 hlast
    refine ⟨"\r\n", .returnAndFeed, ?_⟩
    rw [List.dropLast_concat, ← String.toList_inj]
    simp
  · exact ⟨"\n", .feed, rfl⟩

theorem laysOut_dropReturns (pieces : List (List Char)) :
    LaysOut ((dropReturns pieces).map String.ofList) ("\n".intercalate (pieces.map String.ofList)) := by
  induction pieces with
  | nil => exact .nothing
  | cons piece rest ih =>
    cases rest with
    | nil =>
      simpa [dropReturns] using LaysOut.last (String.ofList piece) isPadding_empty isPadding_empty
    | cons next rest =>
      obtain ⟨lineEnd, hend, hpiece⟩ := exists_lineEnd piece
      rw [List.map_cons, List.map_cons, String.intercalate_cons_cons, hpiece]
      have hrest : (dropReturns (next :: rest)).map String.ofList ≠ [] := by
        cases rest <;> simp [dropReturns]
      simpa [dropReturns] using
        LaysOut.more (String.ofList (Text.dropReturn piece)) isPadding_empty isPadding_empty hend hrest ih

theorem laysOut_segments (source : String) : LaysOut (segments source) source := by
  have hsource : "\n".intercalate ((source.toList.splitOn '\n').map String.ofList) = source := by
    rw [← String.toList_inj, String.toList_intercalate, List.map_map]
    simp [Function.comp_def, List.intercalate_splitOn]
  have h := laysOut_dropReturns (source.toList.splitOn '\n')
  rwa [hsource] at h

end PolicyHeader.Source

namespace PolicyHeader.Header

open Source

/-- The trimmed pieces settle the header. -/
theorem ofSource_of_trimmedPieces {source other : String}
    (h : trimmedPieces source = trimmedPieces other) : ofSource source = ofSource other := by
  rw [ofSource, ofSource, package?_eq_trimmedPieces, comments_eq_trimmedPieces, h,
    package?_eq_trimmedPieces, comments_eq_trimmedPieces]

/-- Texts that lay out the same segments have the same header. -/
theorem ofSource_eq_of_laysOut {parts : List String} {source other : String}
    (hparts : ∀ part ∈ parts, '\n' ∉ part.toList) (h : LaysOut parts source)
    (hother : LaysOut parts other) : ofSource source = ofSource other := by
  by_cases hne : parts = []
  · subst hne
    cases h
    cases hother
    rfl
  · refine ofSource_of_trimmedPieces ?_
    rw [h.trimmedPieces_eq hne hparts, hother.trimmedPieces_eq hne hparts]

/-- **The layout of a text is of no account.** A text that lays out segments with any padding and any line
ends has the header of the segments with bare line feeds between them. So any text may be indented, padded
at its line ends and converted to either kind of line end, and its header stays as it is, with all that is
read off it. -/
theorem ofSource_of_laysOut :
    (∀ (parts : List String) (source : String), (∀ part ∈ parts, '\n' ∉ part.toList) →
      LaysOut parts source → ofSource source = ofSource ("\n".intercalate parts)) ∧
    ∀ source before after lineEnd : String, IsPadding before → IsPadding after → IsLineEnd lineEnd →
      ofSource (lineEnd.intercalate ((segments source).map fun part => before ++ part ++ after)) =
        ofSource source := by
  refine ⟨fun parts source hparts h => ?_, fun source before after lineEnd hbefore hafter hend => ?_⟩
  · have hplain := laysOut_intercalate isPadding_empty isPadding_empty .feed parts
    simp only [String.empty_append, String.append_empty, List.map_id'] at hplain
    exact ofSource_eq_of_laysOut hparts h hplain
  · have hparts : ∀ part ∈ segments source, '\n' ∉ part.toList :=
      fun _ => newline_not_mem_of_mem_segments
    exact ofSource_eq_of_laysOut hparts (laysOut_intercalate hbefore hafter hend _)
      (laysOut_segments source)

/-- A text with line ends of both kinds, wide blanks, and a carriage return inside a segment. -/
def mixedEnds : String :=
  "\t" ++ "# @kinds\rPod" ++ " " ++ "\r\n" ++
    ("" ++ "" ++ "\u3000" ++ "\n" ++ (" " ++ "package a" ++ "\r"))

theorem ofSource_of_laysOut_of_mixedEnds :
    LaysOut ["# @kinds\rPod", "", "package a"] mixedEnds ∧
      ofSource mixedEnds = ofSource ("\n".intercalate ["# @kinds\rPod", "", "package a"]) ∧
      ofSource mixedEnds = ⟨none, some "a", ["@kinds\rPod"]⟩ ∧
      ofSource ("\r\n".intercalate ((segments mixedEnds).map fun part => " " ++ part ++ "\t")) =
        ofSource mixedEnds := by
  have hlaid : LaysOut ["# @kinds\rPod", "", "package a"] mixedEnds :=
    .more _ (by decide) (by decide) .returnAndFeed (by decide) <|
      .more _ (by decide) (by decide) .feed (by decide) <| .last _ (by decide) (by decide)
  obtain ⟨hplain, hconvert⟩ := ofSource_of_laysOut
  exact ⟨hlaid, hplain _ _ (by decide) hlaid, rfl,
    hconvert _ _ _ _ (by decide) (by decide) .returnAndFeed⟩

end PolicyHeader.Header
