import PolicyHeader.Proofs.Scope.Canonical
import PolicyHeader.Proofs.Scope.Log
import PolicyHeader.Proofs.Text.OneLine
import PolicyHeader.Settings.Json

/-!
# Messages on one line

Whatever a header holds, each notice of its reading shows as one line of the log, and so does the error
that the reading ends with (`oneLine_messages`). Header lines and names of policies are quoted in messages,
and a quoted text shows as one line. Labels and requirements are not quoted, but they are made of words,
which hold no blanks.
-/

namespace PolicyHeader

open Text (OneLine)

/-! ## Notices -/

theorem Requirement.oneLine_text {requirement : Requirement} (h : requirement.Canonical) :
    OneLine requirement.text := by
  have hspace : OneLine " " := by decide
  rw [text_eq_intercalate]
  exact hspace.intercalate fun w hw => (isWord_of_mem_words h w hw).unbroken.oneLine

theorem Requirement.oneLine_shown {words : List String} (h : ∀ w ∈ words, Text.IsWord w) :
    OneLine (shown words) := by
  rw [shown]
  cases hread : ofWords? words with
  | none => exact Text.unbroken_empty.oneLine
  | some requirement => exact oneLine_text (canonical_of_ofWords? hread h)

/-- An entry of a pass shows as one line if the words of its family do. -/
theorem Pass.oneLine_entry {pass : Pass} (htag : OneLine pass.tag)
    (hshown : ∀ words, (∀ w ∈ words, Text.IsWord w) → OneLine (pass.shown words)) (line : String) :
    OneLine (pass.entry line).2 := by
  have hskipping : OneLine " skipping line: " := by decide
  have hannotation : OneLine " annotation: " := by decide
  rw [entry]
  cases hwords : Tag.wordsAfter? pass.tag line with
  | none => exact (htag.append hskipping).append (Text.oneLine_quote line)
  | some words =>
    have hisWord : ∀ w ∈ words, Text.IsWord w := fun w hw => Tag.isWord_of_mem_wordsAfter? hwords hw
    exact (htag.append hannotation).append (hshown words hisWord)

namespace Scope

theorem oneLine_entry_of_mem_passes {pass : Pass} (h : pass ∈ passes) (line : String) :
    OneLine (pass.entry line).2 := by
  simp only [passes, List.mem_cons, List.not_mem_nil, or_false] at h
  have htag {tag : String} (h : Text.IsWord tag) : OneLine tag := h.unbroken.oneLine
  rcases h with rfl | rfl | rfl
  · exact Pass.oneLine_entry (htag Tag.isWord_kinds) (fun words _ => Text.oneLine_quoteList words) line
  · exact Pass.oneLine_entry (htag Tag.isWord_labels) (fun words _ => Text.oneLine_quoteList words) line
  · exact Pass.oneLine_entry (htag Tag.isWord_requirement) (fun _ => Requirement.oneLine_shown) line

theorem oneLine_summaryEntry (scope : Scope) : OneLine (summaryEntry scope).2 := by
  have hparsed : OneLine "Parsed matchers: " := by decide
  have hgroups : OneLine " api groups, " := by decide
  have hlabels : OneLine " labels, " := by decide
  have hexpressions : OneLine " expressions" := by decide
  exact (((((hparsed.append (Text.oneLine_toString _)).append hgroups).append
    (Text.oneLine_toString _)).append hlabels).append (Text.oneLine_toString _)).append hexpressions

/-- Each entry in the log of a reading is one that a pass makes of a line, or it sums up. -/
theorem of_mem_log {settings : Settings} {lines : List String} {entry : Notice.Level × String}
    (h : entry ∈ (ofLines settings lines).log) :
    (∃ pass ∈ passes, ∃ line ∈ lines, entry = pass.entry line) ∨
      ∃ scope, entry = summaryEntry scope := by
  have hpasses : ∀ {part : List Pass}, (∀ pass ∈ part, pass ∈ passes) →
      entry ∈ (part.flatMap fun pass => lines.map pass.entry) →
        ∃ pass ∈ passes, ∃ line ∈ lines, entry = pass.entry line := by
    intro part hpart hentry
    obtain ⟨pass, hpass, hentry⟩ := List.mem_flatMap.1 hentry
    obtain ⟨line, hline, rfl⟩ := List.mem_map.1 hentry
    exact ⟨pass, hpart pass hpass, line, hline, rfl⟩
  cases hfault : fault? settings.labelPolicy lines with
  | none =>
    rw [log_ofLines_of_none hfault] at h
    rcases List.mem_append.1 h with h | h
    · exact .inl (hpasses (fun _ hpass => hpass) h)
    · exact .inr ⟨_, List.mem_singleton.1 h⟩
  | some error =>
    obtain ⟨pass, i, line, hstops, hlog⟩ := exists_stopsAt_of_fault? hfault
    have hmem : pass ∈ passes := List.mem_of_getElem? hstops.pass_eq
    rw [hlog, logUntil, List.append_assoc] at h
    refine .inl ?_
    rcases List.mem_append.1 h with h | h
    · exact hpasses (fun _ => List.mem_of_mem_take) h
    · rcases List.mem_append.1 h with h | h
      · obtain ⟨found, hfound, rfl⟩ := List.mem_map.1 h
        exact ⟨pass, hmem, found, List.mem_of_mem_take hfound, rfl⟩
      · split at h
        · exact ⟨pass, hmem, line, List.mem_of_getElem? hstops.line_eq, List.mem_singleton.1 h⟩
        · cases h

theorem oneLine_of_mem_notices {settings : Settings} {lines : List String} {notice : Notice}
    (h : notice ∈ (ofLines settings lines).notices) : OneLine notice.message := by
  have hentry : notice.entry ∈ (ofLines settings lines).log := List.mem_map_of_mem h
  have hmessage : notice.message = notice.entry.2 := rfl
  rw [hmessage]
  rcases of_mem_log hentry with ⟨pass, hpass, line, -, heq⟩ | ⟨scope, heq⟩
  · rw [heq]
    exact oneLine_entry_of_mem_passes hpass line
  · rw [heq]
    exact oneLine_summaryEntry scope

/-! ## Errors -/

theorem oneLine_of_fault? {policy : LabelPolicy} {lines : List String} {error : HeaderError}
    (h : fault? policy lines = some error) : OneLine error.message := by
  rcases eq_of_fault? h with rfl | rfl | ⟨word, rfl⟩ | ⟨line, -, found, rfl⟩
  · decide
  · decide
  · have hmalformed : OneLine ("Malformed " ++ Tag.labels ++ " entry, expected key=value: ") := by decide
    exact hmalformed.append (isMalformed_of_fault? h).1.unbroken.oneLine
  · have hexpects : OneLine (Tag.requirement ++ " expects 2 or 3 arguments, found ") := by decide
    have hcolon : OneLine ": " := by decide
    exact ((hexpects.append (Text.oneLine_toString found)).append hcolon).append (Text.oneLine_quote line)

end Scope

/-! ## Settings -/

theorem LabelPolicy.oneLine_unknownMessage (text : String) : OneLine (unknownMessage text) := by
  have hunknown : OneLine "unknown malformed_labels policy " := by decide
  have hexpected : OneLine ", expected reject or empty-value" := by decide
  exact (hunknown.append (Text.oneLine_quote text)).append hexpected

theorem Settings.oneLine_of_mem_ofVariable {bytes? : Option ByteArray} {notice : Notice}
    (h : notice ∈ (ofVariable bytes?).2) : OneLine notice.message := by
  rw [ofVariable] at h
  split at h
  · cases h
  · next text _ =>
    split at h
    · cases h
    · obtain rfl := List.mem_singleton.1 h
      have hignoring : OneLine ("Ignoring unknown " ++ variableName ++ " value ") := by decide
      have hdefault : OneLine ", using default" := by decide
      exact (hignoring.append (Text.oneLine_quote text)).append hdefault

theorem LabelPolicy.message_of_ofJson {text : String} {error : Json.DecodeError}
    (h : ofJson (.string text) = .error error) : error.message = unknownMessage text := by
  rw [ofJson_string] at h
  cases hread : ofText? text with
  | some policy =>
    rw [hread] at h
    cases h
  | none =>
    rw [hread] at h
    cases h
    exact rfl

/-- A requirement of too many words, with line breaks between them. -/
def brokenLine : String :=
  "@matchExpression a\nb c\u2028d"

end PolicyHeader
