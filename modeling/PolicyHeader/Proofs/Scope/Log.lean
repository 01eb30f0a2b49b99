import PolicyHeader.Header
import PolicyHeader.Proofs.Scope.Concatenation

/-!
# The log of a reading

The log tells of each pass in turn, and of each line in turn. A line that carries the tag of the pass is
told of by its words and any other line by its text (`Pass.entry`), so a reading that comes to a scope
leaves three entries for each line, and one more that sums up (`Scope.log_ofLines`).

A line at fault ends the log. Whether the line itself is still told of hangs on the fault: malformed labels
are found after the line is noted, all other faults before (`Recorder`). What one line adds to the log
(`Recorder.exists_log_cons`) gives what all lines before a fault add (`Recorder.exists_log_append`).
-/

namespace PolicyHeader

/-- What the log shows of a notice. -/
def Notice.entry (notice : Notice) : Notice.Level × String :=
  (notice.level, notice.message)

namespace Run

variable {α β : Type}

/-- The entries that a run leaves in the log. -/
def log (run : Run α) : List (Notice.Level × String) :=
  run.notices.map Notice.entry

theorem log_bind_of_ok {first : Run α} {a : α} (h : first.result = .ok a) (next : α → Run β) :
    (first >>= next).log = first.log ++ (next a).log := by
  rw [bind_eq, h, log, log, log, List.map_append]

theorem log_bind_of_error {first : Run α} {error : HeaderError} (h : first.result = .error error)
    (next : α → Run β) : (first >>= next).log = first.log := by
  rw [bind_eq, h, log, log]

end Run

/-- Malformed labels are found after their line is noted. -/
def HeaderError.isMalformedLabel : HeaderError → Bool
  | .malformedLabel _ => true
  | _ => false

/-- A pass over the lines, as far as the log tells of it. -/
structure Pass where
  tag : String
  /-- How the log shows the words of a line. -/
  shown : List String → String

/-- What the log tells of a line after the pass has read it. -/
def Pass.entry (pass : Pass) (line : String) : Notice.Level × String :=
  match Tag.wordsAfter? pass.tag line with
  | none => (.trace, pass.tag ++ " skipping line: " ++ Text.quote line)
  | some words => (.debug, pass.tag ++ " annotation: " ++ pass.shown words)

/-! ## The log of one pass -/

/-- What a family leaves in the log for a line of its own. -/
structure Recorder {α : Type} (family : Family α) extends Reader family where
  shown : List String → String
  log_add : ∀ line words found,
    (family.add line words found).log =
      if (fault? line words).all HeaderError.isMalformedLabel then
        [(.debug, family.tag ++ " annotation: " ++ shown words)]
      else []

namespace Recorder

variable {α : Type} {family : Family α} (recorder : Recorder family)

def pass : Pass :=
  ⟨family.tag, recorder.shown⟩

/-- The fault of a line, if it is one of the family. -/
def lineFault? (line : String) : Option HeaderError :=
  (Tag.wordsAfter? family.tag line).bind (recorder.fault? line)

/-- A line without a fault leaves its entry, and the pass goes on. -/
theorem exists_log_cons (found : α) {line : String} (h : recorder.lineFault? line = none) :
    ∃ found', ∀ rest, (family.readFrom found (line :: rest)).log =
      recorder.pass.entry line :: (family.readFrom found' rest).log := by
  have hvalues := Tag.values?_eq_wordsAfter? recorder.isWord_tag line
  cases hwords : Tag.wordsAfter? family.tag line with
  | none =>
    refine ⟨found, fun rest => ?_⟩
    have hentry : recorder.pass.entry line = Notice.entry (.skipped family.tag line) := by
      rw [Pass.entry, pass, hwords]
      rfl
    rw [Family.readFrom, hvalues, hwords, hentry]
    rfl
  | some words =>
    have hfault : recorder.fault? line words = none := by
      rwa [lineFault?, hwords, Option.bind_some] at h
    have hadd : (family.add line words found).result = .ok (recorder.put found words) := by
      rw [recorder.result_add, hfault, endWith_none]
    have hentry : recorder.pass.entry line =
        (.debug, family.tag ++ " annotation: " ++ recorder.shown words) := by
      rw [Pass.entry, pass, hwords]
    refine ⟨recorder.put found words, fun rest => ?_⟩
    rw [Family.readFrom, hvalues, hwords, Run.log_bind_of_ok hadd, recorder.log_add, hfault, hentry]
    rfl

/-- Lines without a fault leave their entries, and the pass goes on. -/
theorem exists_log_append (found : α) {before : List String}
    (h : firstFault? family.tag recorder.fault? before = none) :
    ∃ found', ∀ rest, (family.readFrom found (before ++ rest)).log =
      before.map recorder.pass.entry ++ (family.readFrom found' rest).log := by
  induction before generalizing found with
  | nil => exact ⟨found, fun _ => rfl⟩
  | cons line before ih =>
    obtain ⟨hline, hbefore⟩ := List.forall_mem_cons.1 (List.findSome?_eq_none_iff.1 h)
    obtain ⟨next, hnext⟩ := recorder.exists_log_cons found hline
    obtain ⟨found', hfound'⟩ := ih next (List.findSome?_eq_none_iff.2 hbefore)
    refine ⟨found', fun rest => ?_⟩
    rw [List.cons_append, hnext, hfound', List.map_cons, List.cons_append]

/-- A line at fault ends the log, with or without its entry. -/
theorem log_cons_of_fault (found : α) {line : String} {error : HeaderError}
    (h : recorder.lineFault? line = some error) (rest : List String) :
    (family.readFrom found (line :: rest)).log =
      if error.isMalformedLabel then [recorder.pass.entry line] else [] := by
  obtain ⟨words, hwords, hfault⟩ := Option.bind_eq_some_iff.1 h
  have hadd : (family.add line words found).result = .error error := by
    rw [recorder.result_add, hfault, endWith_some]
  have hentry : recorder.pass.entry line =
      (.debug, family.tag ++ " annotation: " ++ recorder.shown words) := by
    rw [Pass.entry, pass, hwords]
  rw [Family.readFrom, Tag.values?_eq_wordsAfter? recorder.isWord_tag, hwords,
    Run.log_bind_of_error hadd, recorder.log_add, hfault, hentry]
  rfl

theorem log_read {lines : List String}
    (h : firstFault? family.tag recorder.fault? lines = none) :
    (family.read lines).log = lines.map recorder.pass.entry := by
  obtain ⟨found, hlog⟩ := recorder.exists_log_append family.start h
  have hread := hlog []
  rw [List.append_nil] at hread
  rw [Family.read, hread]
  exact List.append_nil _

/-- A pass with a fault tells of the lines before a certain one. On these lines it has no fault, and with
the certain line it has the fault. -/
theorem exists_log_read {lines : List String} {error : HeaderError}
    (h : firstFault? family.tag recorder.fault? lines = some error) :
    ∃ i line, lines[i]? = some line ∧ (Tag.wordsAfter? family.tag line).isSome = true ∧
      firstFault? family.tag recorder.fault? (lines.take i) = none ∧
      firstFault? family.tag recorder.fault? (lines.take (i + 1)) = some error ∧
      (family.read lines).log = (lines.take i).map recorder.pass.entry ++
        if error.isMalformedLabel then [recorder.pass.entry line] else [] := by
  obtain ⟨before, line, rest, rfl, hline, hbefore⟩ := List.findSome?_eq_some_iff.1 h
  obtain ⟨words, hwords, -⟩ := Option.bind_eq_some_iff.1 hline
  have hnone : firstFault? family.tag recorder.fault? before = none :=
    List.findSome?_eq_none_iff.2 hbefore
  have htake : (before ++ line :: rest).take (before.length + 1) = before ++ [line] := by
    rw [List.take_length_add_append]
    rfl
  obtain ⟨found, hlog⟩ := recorder.exists_log_append family.start hnone
  refine ⟨before.length, line, ?_, Option.isSome_of_eq_some hwords, ?_, ?_, ?_⟩
  · rw [List.getElem?_append_right (Nat.le_refl _), Nat.sub_self, List.getElem?_cons_zero]
  · rw [List.take_left, hnone]
  · rw [htake, firstFault?_append, hnone, Option.none_or, firstFault?, List.findSome?_singleton, hline]
  · rw [List.take_left, Family.read, hlog, recorder.log_cons_of_fault found hline]

end Recorder

/-! ## The three passes -/

def Kinds.recorder : Recorder family where
  toReader := reader
  shown := Text.quoteList
  log_add line words found := by
    cases words <;> rfl

def Labels.recorder (policy : LabelPolicy) : Recorder (family policy) where
  toReader := reader policy
  shown := Text.quoteList
  log_add line words found := by
    cases words with
    | nil => rfl
    | cons word rest =>
      have hnoted : (fault? policy line (word :: rest)).all HeaderError.isMalformedLabel = true := by
        rw [fault?]
        cases (word :: rest).find? (isMalformed policy) <;> rfl
      exact (if_pos hnoted).symm

/-- The log shows the requirement that words give. -/
def Requirement.shown (words : List String) : String :=
  ((ofWords? words).map text).getD ""

def Requirement.recorder : Recorder family where
  toReader := reader
  shown := shown
  log_add line words found := by
    rcases words with _ | ⟨_, _ | ⟨_, _ | ⟨_, _ | ⟨_, _⟩⟩⟩⟩ <;> rfl

namespace Scope

/-- The passes of a reading, in order. -/
def passes : List Pass :=
  [⟨Tag.kinds, Text.quoteList⟩, ⟨Tag.labels, Text.quoteList⟩, ⟨Tag.requirement, Requirement.shown⟩]

/-- What the log tells at the end of a reading that came to a scope. -/
def summaryEntry (scope : Scope) : Notice.Level × String :=
  (.debug, "Parsed matchers: " ++ toString scope.kinds.length ++ " api groups, " ++
    toString scope.labels.size ++ " labels, " ++ toString scope.requirements.length ++ " expressions")

/-- A reading stops with an error at line `i`, counted from zero. The line carries the tag of the pass in
which the error arises. No earlier pass has an error, and this pass has the error on the lines up to
line `i` but has none on the lines before. -/
structure StopsAt (settings : Settings) (lines : List String) (error : HeaderError) (pass : Pass)
    (i : Nat) (line : String) : Prop where
  pass_eq : passes[error.pass]? = some pass
  line_eq : lines[i]? = some line
  carries : (Tag.wordsAfter? pass.tag line).isSome = true
  earlier : ∀ p < error.pass, (passErrors settings lines)[p]? = some none
  before : (passErrors settings (lines.take i))[error.pass]? = some none
  upTo : (passErrors settings (lines.take (i + 1)))[error.pass]? = some (some error)

/-- The log of a reading that stops with an error at line `i` of a pass: all lines in the passes before,
then the lines before line `i`, and line `i` itself only if the error is a malformed label. -/
def logUntil (lines : List String) (error : HeaderError) (pass : Pass) (i : Nat) (line : String) :
    List (Notice.Level × String) :=
  ((passes.take error.pass).flatMap fun pass => lines.map pass.entry) ++
    (lines.take i).map pass.entry ++
    if error.isMalformedLabel then [pass.entry line] else []

section passes

variable {settings : Settings} {lines : List String} {error : HeaderError}

theorem result_kinds_of_none (h : firstFault? Tag.kinds Kinds.fault? lines = none) :
    (Kinds.family.read lines).result = .ok (gather lines).kinds := by
  rw [result_read_kinds, h, endWith_none]

theorem result_labels_of_none {policy : LabelPolicy}
    (h : firstFault? Tag.labels (Labels.fault? policy) lines = none) :
    ((Labels.family policy).read lines).result = .ok (gather lines).labels := by
  rw [result_read_labels, h, endWith_none]

theorem result_requirements_of_none
    (h : firstFault? Tag.requirement Requirement.fault? lines = none) :
    (Requirement.family.read lines).result = .ok (gather lines).requirements := by
  rw [result_read_requirements, h, endWith_none]

theorem log_ofLines_of_none (h : fault? settings.labelPolicy lines = none) :
    (ofLines settings lines).log =
      (passes.flatMap fun pass => lines.map pass.entry) ++ [summaryEntry (gather lines)] := by
  rw [fault?, Option.or_eq_none_iff, Option.or_eq_none_iff] at h
  obtain ⟨hkinds, hlabels, hrequirement⟩ := h
  rw [ofLines, Run.log_bind_of_ok (result_kinds_of_none hkinds),
    Run.log_bind_of_ok (result_labels_of_none hlabels),
    Run.log_bind_of_ok (result_requirements_of_none hrequirement),
    Kinds.recorder.log_read hkinds, (Labels.recorder settings.labelPolicy).log_read hlabels,
    Requirement.recorder.log_read hrequirement]
  simp only [passes, List.flatMap_cons, List.flatMap_nil, List.append_nil, List.append_assoc]
  rfl

theorem passErrors_of_lt (h : fault? settings.labelPolicy lines = some error) {p : Nat}
    (hp : p < error.pass) : (passErrors settings lines)[p]? = some none := by
  obtain ⟨hfirst, hpass⟩ := passErrors_of_fault? h
  have hlength : p < (passErrors settings lines).length :=
    Nat.lt_trans hp (List.getElem?_eq_some_iff.1 hpass).1
  have hnone := List.not_of_lt_findIdx (hfirst ▸ hp)
  rw [List.getElem?_eq_getElem hlength, Option.some.injEq]
  simpa using hnone

/-- A reading that ends in a certain pass stops at a line, and tells of what this pass has read of the
lines after what the passes before it have told. -/
theorem exists_stopsAt {α : Type} {family : Family α} (recorder : Recorder family)
    (herror : fault? settings.labelPolicy lines = some error)
    (h : firstFault? family.tag recorder.fault? lines = some error)
    (hpass : passes[error.pass]? = some recorder.pass)
    (hpassErrors : ∀ lines, (passErrors settings lines)[error.pass]? =
      some (firstFault? family.tag recorder.fault? lines))
    (hlog : (ofLines settings lines).log =
      ((passes.take error.pass).flatMap fun pass => lines.map pass.entry) ++ (family.read lines).log) :
    ∃ pass i line, StopsAt settings lines error pass i line ∧
      (ofLines settings lines).log = logUntil lines error pass i line := by
  obtain ⟨i, line, hline, hcarries, hbefore, hupTo, hread⟩ := recorder.exists_log_read h
  have hstops : StopsAt settings lines error recorder.pass i line :=
    { pass_eq := hpass
      line_eq := hline
      carries := hcarries
      earlier := fun p hp => passErrors_of_lt herror hp
      before := by rw [hpassErrors, hbefore]
      upTo := by rw [hpassErrors, hupTo] }
  refine ⟨recorder.pass, i, line, hstops, ?_⟩
  rw [hlog, hread, logUntil, List.append_assoc]

/-- A reading with a fault stops at a line of the pass that the fault is of. -/
theorem exists_stopsAt_of_fault? (h : fault? settings.labelPolicy lines = some error) :
    ∃ pass i line, StopsAt settings lines error pass i line ∧
      (ofLines settings lines).log = logUntil lines error pass i line := by
  have herror := h
  rw [fault?, Option.or_eq_some_iff, Option.or_eq_some_iff] at h
  rcases h with h | ⟨hkinds, h | ⟨hlabels, h⟩⟩
  · have hpass := pass_of_firstFault?_kinds h
    have hresult : (Kinds.family.read lines).result = .error error := by
      rw [result_read_kinds, h, endWith_some]
    refine exists_stopsAt Kinds.recorder herror h (by rw [hpass]; rfl)
      (fun lines => by rw [passErrors_eq, hpass]; rfl) ?_
    rw [ofLines, Run.log_bind_of_error hresult, hpass]
    rfl
  · have hpass := pass_of_firstFault?_labels h
    have hresult : ((Labels.family settings.labelPolicy).read lines).result = .error error := by
      rw [result_read_labels, h, endWith_some]
    refine exists_stopsAt (Labels.recorder settings.labelPolicy) herror h (by rw [hpass]; rfl)
      (fun lines => by rw [passErrors_eq, hpass]; rfl) ?_
    rw [ofLines, Run.log_bind_of_ok (result_kinds_of_none hkinds), Run.log_bind_of_error hresult,
      Kinds.recorder.log_read hkinds, hpass]
    simp [passes, Recorder.pass, Kinds.recorder, Kinds.family]
  · have hpass := pass_of_firstFault?_requirement h
    have hresult : (Requirement.family.read lines).result = .error error := by
      rw [result_read_requirements, h, endWith_some]
    refine exists_stopsAt Requirement.recorder herror h (by rw [hpass]; rfl)
      (fun lines => by rw [passErrors_eq, hpass]; rfl) ?_
    rw [ofLines, Run.log_bind_of_ok (result_kinds_of_none hkinds),
      Run.log_bind_of_ok (result_labels_of_none hlabels), Run.log_bind_of_error hresult,
      Kinds.recorder.log_read hkinds, (Labels.recorder settings.labelPolicy).log_read hlabels, hpass]
    simp [passes, Recorder.pass, Kinds.recorder, Kinds.family, Labels.recorder, Labels.family]

end passes

/-- **The log is a record of the reading.** A reading that comes to a scope leaves an entry for each line
in each of the three passes, and then one that sums up. A reading that ends with an error stops at a line
that carries the tag of the pass in which the error arises: it leaves the entries of all lines in the passes
before, those of the lines before that line, and an entry of that line itself only if the error is
a malformed label. A header leaves the same log, and before it an entry for its file if it has one. -/
theorem log_ofLines (settings : Settings) :
    (∀ (lines : List String) (scope : Scope), (ofLines settings lines).result = .ok scope →
      (ofLines settings lines).log.length = 3 * lines.length + 1 ∧
      (ofLines settings lines).log =
        (passes.flatMap fun pass => lines.map pass.entry) ++ [summaryEntry scope]) ∧
    (∀ (lines : List String) (error : HeaderError), (ofLines settings lines).result = .error error →
      ∃ pass i line, StopsAt settings lines error pass i line ∧
        (ofLines settings lines).log = logUntil lines error pass i line) ∧
    (∀ header : Header,
      (header.scope settings).result = (ofLines settings header.lines).result ∧
      (header.scope settings).log =
        (header.path.map fun path => (.debug, "Parsing matchers for " ++ path.text)).toList ++
          (ofLines settings header.lines).log) := by
  refine ⟨fun lines scope h => ?_, fun lines error h => ?_, fun header => ?_⟩
  · rw [result_ofLines, endWith_eq_ok_iff] at h
    obtain ⟨hfault, rfl⟩ := h
    have hlog := log_ofLines_of_none hfault
    refine ⟨?_, hlog⟩
    rw [hlog]
    simp only [passes, List.flatMap_cons, List.flatMap_nil, List.length_append, List.length_map,
      List.length_nil, List.length_singleton]
    omega
  · rw [result_ofLines, endWith_eq_error_iff] at h
    exact exists_stopsAt_of_fault? h
  · rw [Header.scope]
    cases header.path with
    | none => exact ⟨rfl, rfl⟩
    | some path => exact ⟨rfl, rfl⟩

/-- Lines with a label that has no key before one that has no value. -/
def malformedLines : List String :=
  ["@kinds Pod", "@matchlabels =x y", "@matchlabels a=b"]

theorem log_of_malformedLines :
    (∃ pass i line, StopsAt .standard malformedLines (.malformedLabel "=x") pass i line ∧
      (ofLines .standard malformedLines).log =
        logUntil malformedLines (.malformedLabel "=x") pass i line) ∧
    (ofLines .standard ["@kinds Pod", "see @kinds"]).log.length = 7 := by
  obtain ⟨hok, hstop, -⟩ := log_ofLines .standard
  have herror : (ofLines .standard malformedLines).result = .error (.malformedLabel "=x") := rfl
  have hread : (ofLines .standard ["@kinds Pod", "see @kinds"]).result =
      .ok ⟨[⟨"", ["Pod"]⟩], .empty, []⟩ := rfl
  exact ⟨hstop _ _ herror, (hok _ _ hread).1⟩

end Scope

end PolicyHeader
