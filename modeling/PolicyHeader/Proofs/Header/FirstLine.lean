import PolicyHeader.Proofs.Scope.Families

/-!
# The first line of a tag decides

The title and the enforcing action are told by the first line that carries their tag, and by no other
(`firstValues?_eq_iff`). If that line has no values, no later one makes up for it. So a header in two parts
answers as its first part does if that has a line with the tag, and as its second part does otherwise
(`firstValues?_append`). Titles are single-spaced texts, and each of these is the title of the line that is
written with it (`title_singleton_eq_iff`).
-/

namespace PolicyHeader.Header

open Tag (carries)
open Text (IsWord SingleSpaced wordsOf)

/-- What the first line that carries a tag says after the tag, if some line carries it. -/
inductive FirstGives (tag : String) : List String → Option (List String) → Prop
  | nothing {lines : List String} (h : ∀ line ∈ lines, carries tag line = false) :
      FirstGives tag lines none
  | words {before after words : List String} {line : String}
      (hbefore : ∀ other ∈ before, carries tag other = false) (hline : wordsOf line = tag :: words) :
      FirstGives tag (before ++ line :: after) (some words)

section firstValues

variable {tag : String} (htag : IsWord tag)
include htag

theorem firstValues?_eq_findSome? (header : Header) :
    header.firstValues? tag = header.lines.findSome? (Tag.wordsAfter? tag) := by
  rw [firstValues?, funext (Tag.values?_eq_wordsAfter? htag)]

theorem firstValues?_eq_iff {header : Header} {found : Option (List String)} :
    header.firstValues? tag = found ↔ FirstGives tag header.lines found := by
  rw [firstValues?_eq_findSome? htag]
  constructor
  · rintro rfl
    cases hfound : header.lines.findSome? (Tag.wordsAfter? tag) with
    | none =>
      refine .nothing fun line hline => Tag.wordsAfter?_eq_none_iff.1 ?_
      exact List.findSome?_eq_none_iff.1 hfound line hline
    | some words =>
      obtain ⟨before, line, after, hlines, hline, hbefore⟩ := List.findSome?_eq_some_iff.1 hfound
      rw [hlines]
      exact .words (fun other hother => Tag.wordsAfter?_eq_none_iff.1 (hbefore other hother))
        (Tag.wordsAfter?_eq_some_iff.1 hline)
  · generalize header.lines = lines
    intro h
    cases h with
    | nothing h =>
      exact List.findSome?_eq_none_iff.2 fun line hline => Tag.wordsAfter?_eq_none_iff.2 (h line hline)
    | words hbefore hline =>
      refine List.findSome?_eq_some_iff.2 ⟨_, _, _, rfl, Tag.wordsAfter?_eq_some_iff.2 hline, ?_⟩
      exact fun other hother => Tag.wordsAfter?_eq_none_iff.2 (hbefore other hother)

/-- Whether a header has a line with the tag settles whether it has values of the tag. -/
theorem isSome_firstValues? (header : Header) :
    (header.firstValues? tag).isSome = header.lines.any (carries tag) := by
  rw [firstValues?_eq_findSome? htag, List.isSome_findSome?]
  exact congrArg header.lines.any (funext fun line => (Tag.carries_eq_isSome tag line).symm)

theorem firstValues?_append (first second : List String) :
    (ofLines (first ++ second)).firstValues? tag =
      if first.any (carries tag) = true then (ofLines first).firstValues? tag
      else (ofLines second).firstValues? tag := by
  have hsome := isSome_firstValues? htag (ofLines first)
  have happend : (ofLines (first ++ second)).firstValues? tag =
      ((ofLines first).firstValues? tag).or ((ofLines second).firstValues? tag) :=
    List.findSome?_append
  rw [happend]
  change _ = first.any (carries tag) at hsome
  rw [← hsome]
  cases (ofLines first).firstValues? tag <;> rfl

end firstValues

/-! ## Title and enforcing action -/

theorem title_append (first second : List String) :
    (ofLines (first ++ second)).title =
      if first.any (carries Tag.title) = true then (ofLines first).title else (ofLines second).title := by
  have hfirst := firstValues?_append Tag.isWord_title first second
  by_cases h : first.any (carries Tag.title) = true
  · rw [if_pos h] at hfirst ⊢
    rw [title, hfirst, title]
  · rw [if_neg h] at hfirst ⊢
    rw [title, hfirst, title]

theorem enforcement_append (first second : List String) :
    (ofLines (first ++ second)).enforcement =
      if first.any (carries Tag.enforcement) = true then (ofLines first).enforcement
      else (ofLines second).enforcement := by
  have hfirst := firstValues?_append Tag.isWord_enforcement first second
  by_cases h : first.any (carries Tag.enforcement) = true
  · rw [if_pos h] at hfirst ⊢
    rw [enforcement, hfirst, enforcement]
  · rw [if_neg h] at hfirst ⊢
    rw [enforcement, hfirst, enforcement]

section answers

variable {header : Header}

theorem title_eq_ok_none_iff :
    header.title = .ok none ↔ FirstGives Tag.title header.lines none := by
  rw [← firstValues?_eq_iff Tag.isWord_title, title]
  cases header.firstValues? Tag.title with
  | none => simp
  | some words => cases words <;> simp

theorem title_eq_error_iff {error : HeaderError} :
    header.title = .error error ↔
      FirstGives Tag.title header.lines (some []) ∧ error = .noValues Tag.title := by
  rw [← firstValues?_eq_iff Tag.isWord_title, title]
  cases header.firstValues? Tag.title with
  | none => simp
  | some words => cases words <;> simp [eq_comm]

theorem title_eq_ok_some_iff {text : String} :
    header.title = .ok (some text) ↔
      ∃ words, words ≠ [] ∧ FirstGives Tag.title header.lines (some words) ∧
        text = " ".intercalate words := by
  simp only [← firstValues?_eq_iff Tag.isWord_title]
  rw [title]
  cases header.firstValues? Tag.title with
  | none => simp
  | some words => cases words <;> simp [eq_comm]

theorem enforcement_eq_error_iff {error : HeaderError} :
    header.enforcement = .error error ↔
      FirstGives Tag.enforcement header.lines (some []) ∧ error = .noValues Tag.enforcement := by
  rw [← firstValues?_eq_iff Tag.isWord_enforcement, enforcement]
  cases header.firstValues? Tag.enforcement with
  | none => simp
  | some words => cases words <;> simp [eq_comm]

theorem enforcement_eq_ok_iff {action : String} :
    header.enforcement = .ok action ↔
      (FirstGives Tag.enforcement header.lines none ∧ action = standardEnforcement) ∨
        ∃ rest, FirstGives Tag.enforcement header.lines (some (action :: rest)) := by
  simp only [← firstValues?_eq_iff Tag.isWord_enforcement]
  rw [enforcement]
  cases header.firstValues? Tag.enforcement with
  | none => simp [eq_comm]
  | some words => cases words <;> simp [eq_comm]

theorem singleSpaced_of_title {text : String} (h : header.title = .ok (some text)) :
    SingleSpaced text := by
  obtain ⟨words, hne, hgives, rfl⟩ := title_eq_ok_some_iff.1 h
  generalize header.lines = lines at hgives
  cases hgives with
  | words _ hline =>
    refine Text.singleSpaced_intercalate hne fun w hw => ?_
    exact Tag.isWord_of_mem_wordsAfter? (Tag.wordsAfter?_eq_some_iff.2 hline) hw

end answers

/-- The line that is written with a text has it for its title exactly if the text is single-spaced. -/
theorem title_singleton_eq_iff {text : String} :
    (ofLines [Tag.title ++ " " ++ text]).title = .ok (some text) ↔ SingleSpaced text := by
  have hvalues : (ofLines [Tag.title ++ " " ++ text]).firstValues? Tag.title = some (wordsOf text) := by
    rw [firstValues?_eq_findSome? Tag.isWord_title]
    change [_].findSome? _ = _
    rw [List.findSome?_singleton, Tag.wordsAfter?_line Tag.isWord_title, if_pos rfl]
  rw [title, hvalues, Text.singleSpaced_iff]
  cases wordsOf text <;> simp

/-- **The first line of a tag decides.** A header has no title if no line has the tag. Otherwise the words of
the first such line, joined by single spaces, are the title, and it is an error if there are none. The same
holds of the enforcing action, which is the first of the words, and `deny` without a line. So a header in two
parts answers as the first part if that has the tag, and as the second part if it has not. A title is a
single-spaced text, and such a text written behind the tag is the title of that line. -/
theorem first_line_decides :
    (∀ header : Header,
      (header.title = .ok none ↔ FirstGives Tag.title header.lines none) ∧
      (∀ error, header.title = .error error ↔
        FirstGives Tag.title header.lines (some []) ∧ error = .noValues Tag.title) ∧
      ∀ text, header.title = .ok (some text) ↔
        ∃ words, words ≠ [] ∧ FirstGives Tag.title header.lines (some words) ∧
          text = " ".intercalate words) ∧
    (∀ header : Header,
      (∀ error, header.enforcement = .error error ↔
        FirstGives Tag.enforcement header.lines (some []) ∧ error = .noValues Tag.enforcement) ∧
      ∀ action, header.enforcement = .ok action ↔
        (FirstGives Tag.enforcement header.lines none ∧ action = "deny") ∨
          ∃ rest, FirstGives Tag.enforcement header.lines (some (action :: rest))) ∧
    (∀ first second,
      (ofLines (first ++ second)).title =
        (if first.any (carries Tag.title) then (ofLines first).title else (ofLines second).title) ∧
      (ofLines (first ++ second)).enforcement =
        if first.any (carries Tag.enforcement) then (ofLines first).enforcement
        else (ofLines second).enforcement) ∧
    (∀ (header : Header) (text : String), header.title = .ok (some text) →
      SingleSpaced text ∧ (ofLines [Tag.title ++ " " ++ text]).title = .ok (some text)) ∧
    ∀ text, (ofLines [Tag.title ++ " " ++ text]).title = .ok (some text) ↔ SingleSpaced text :=
  ⟨fun _ => ⟨title_eq_ok_none_iff, fun _ => title_eq_error_iff, fun _ => title_eq_ok_some_iff⟩,
    fun _ => ⟨fun _ => enforcement_eq_error_iff, fun _ => enforcement_eq_ok_iff⟩,
    fun first second => ⟨title_append first second, enforcement_append first second⟩,
    fun _ _ h => ⟨singleSpaced_of_title h, title_singleton_eq_iff.2 (singleSpaced_of_title h)⟩,
    fun _ => title_singleton_eq_iff⟩

/-- A bare line before a good one, and a good line before a bare one. -/
theorem first_line_decides_of_bareLines :
    (ofLines (["@titled A", " @title\u00a0"] ++ ["@title B"])).title = .error (.noValues "@title") ∧
    (ofLines (["@titled A"] ++ ["@title\t B\u3000 c ", "@title"])).title = .ok (some "B c") ∧
    (ofLines ["@title B c"]).title = .ok (some "B c") ∧
    (ofLines ["# @enforcement warn", "@enforcement dryrun now", "@enforcement"]).enforcement =
      .ok "dryrun" ∧
    (ofLines ["# @enforcement warn"]).enforcement = .ok "deny" := by
  obtain ⟨htitle, henforcement, happend, hsingle, -⟩ := first_line_decides
  have hgood : (ofLines ["@title\t B\u3000 c ", "@title"]).title = .ok (some "B c") := by
    refine ((htitle _).2.2 _).2 ⟨["B", "c"], by decide, ?_, by decide⟩
    exact @FirstGives.words _ [] _ _ _ (by decide) (by decide)
  refine ⟨?_, ?_, (hsingle _ _ hgood).2, ?_, ?_⟩
  · rw [(happend _ _).1, if_pos (by decide)]
    exact ((htitle _).2.1 _).2 ⟨@FirstGives.words _ ["@titled A"] _ _ _ (by decide) (by decide), rfl⟩
  · rw [(happend _ _).1, if_neg (by decide), hgood]
  · refine ((henforcement _).2 _).2 (.inr ⟨["now"], ?_⟩)
    exact @FirstGives.words _ ["# @enforcement warn"] _ _ _ (by decide) (by decide)
  · exact ((henforcement _).2 _).2 (.inl ⟨.nothing (by decide), rfl⟩)

end PolicyHeader.Header
