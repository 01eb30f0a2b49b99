import PolicyHeader.Proofs.Scope.Labels
import PolicyHeader.Proofs.Text.Cut
import PolicyHeader.Proofs.Tag
import PolicyHeader.Scope.Reading

/-!
# What the lines of a scope come to

Whether a line of a family is at fault, and what it adds, does not hang on what was found before it. So
a pass over the lines ends with the first fault among the lines of its family, and without a fault with
all that these lines add (`Reader.result_read`). A scope is read in three passes, so the first fault of
the first pass that has one decides (`Scope.result_ofLines`).
-/

namespace PolicyHeader

/-- A reading that ends with a fault if there is one, and with a value otherwise. -/
def endWith {α : Type} (fault? : Option HeaderError) (value : α) : Except HeaderError α :=
  match fault? with
  | some error => .error error
  | none => .ok value

section endWith

variable {α : Type} {fault? : Option HeaderError} {value : α}

@[simp]
theorem endWith_some (error : HeaderError) : endWith (some error) value = .error error :=
  rfl

@[simp]
theorem endWith_none : endWith none value = .ok value :=
  rfl

theorem endWith_eq_error_iff {error : HeaderError} :
    endWith fault? value = .error error ↔ fault? = some error := by
  cases fault? <;> simp

theorem endWith_eq_ok_iff {other : α} :
    endWith fault? value = .ok other ↔ fault? = none ∧ value = other := by
  cases fault? <;> simp

end endWith

theorem Run.result_bind {α β : Type} (first : Run α) (next : α → Run β) :
    (first >>= next).result = first.result >>= fun a => (next a).result := by
  rw [Run.bind_eq]
  cases first.result <;> rfl

/-- The words after the tag, for each line that carries it. -/
def taggedWords (tag : String) (lines : List String) : List (List String) :=
  lines.filterMap (Tag.wordsAfter? tag)

theorem taggedWords_append (tag : String) (first second : List String) :
    taggedWords tag (first ++ second) = taggedWords tag first ++ taggedWords tag second :=
  List.filterMap_append

theorem isWord_of_mem_taggedWords {tag w : String} {lines ws : List String}
    (hws : ws ∈ taggedWords tag lines) (hw : w ∈ ws) : Text.IsWord w := by
  obtain ⟨line, -, hline⟩ := List.mem_filterMap.1 hws
  exact Tag.isWord_of_mem_wordsAfter? hline hw

/-- The first fault among the lines that carry a tag. A line is judged by its text and the words after
the tag. -/
def firstFault? (tag : String) (fault? : String → List String → Option HeaderError)
    (lines : List String) : Option HeaderError :=
  lines.findSome? fun line => (Tag.wordsAfter? tag line).bind (fault? line)

theorem firstFault?_append (tag : String) (fault? : String → List String → Option HeaderError)
    (first second : List String) :
    firstFault? tag fault? (first ++ second) =
      (firstFault? tag fault? first).or (firstFault? tag fault? second) :=
  List.findSome?_append

/-- A fault is the fault of some line. -/
theorem exists_of_firstFault? {tag : String} {fault? : String → List String → Option HeaderError}
    {lines : List String} {error : HeaderError} (h : firstFault? tag fault? lines = some error) :
    ∃ line ∈ lines, ∃ words, Tag.wordsAfter? tag line = some words ∧ fault? line words = some error := by
  obtain ⟨line, hline, hfault⟩ := List.exists_of_findSome?_eq_some h
  obtain ⟨words, hwords, herror⟩ := Option.bind_eq_some_iff.1 hfault
  exact ⟨line, hline, words, hwords, herror⟩

theorem firstFault?_eq_none_iff {tag : String} {fault? : String → List String → Option HeaderError}
    {lines : List String} : firstFault? tag fault? lines = none ↔
      ∀ line ∈ lines, ∀ words ∈ Tag.wordsAfter? tag line, fault? line words = none := by
  simp only [firstFault?, List.findSome?_eq_none_iff, Option.bind_eq_none_iff, Option.mem_def]

theorem firstFault?_eq_none {tag : String} {fault? : String → List String → Option HeaderError}
    {lines : List String} (h : ∀ line, ∀ words ∈ taggedWords tag lines, fault? line words = none) :
    firstFault? tag fault? lines = none :=
  firstFault?_eq_none_iff.2 fun line hline words hwords =>
    h line words (List.mem_filterMap.2 ⟨line, hline, hwords⟩)

theorem exists_fault?_eq_none {tag : String} {fault? : String → List String → Option HeaderError}
    {lines words : List String} (h : firstFault? tag fault? lines = none)
    (hwords : words ∈ taggedWords tag lines) : ∃ line, fault? line words = none := by
  obtain ⟨line, hline, heq⟩ := List.mem_filterMap.1 hwords
  exact ⟨line, firstFault?_eq_none_iff.1 h line hline words heq⟩

/-! ## One pass -/

/-- What the lines of a family come to one by one, whatever was found before. -/
structure Reader {α : Type} (family : Family α) where
  isWord_tag : Text.IsWord family.tag
  /-- The fault of a line, given its text and its words. -/
  fault? : String → List String → Option HeaderError
  /-- What was found before, together with what the words of one more line add. -/
  put : α → List String → α
  result_add : ∀ line words found,
    (family.add line words found).result = endWith (fault? line words) (put found words)

namespace Reader

variable {α : Type} {family : Family α} (reader : Reader family)

/-- All that the lines of the family add. -/
def gather (found : α) (lines : List String) : α :=
  (taggedWords family.tag lines).foldl reader.put found

/-- A pass that goes on from what was found ends with the first fault of the lines to come. -/
theorem result_readFrom (found : α) (lines : List String) :
    (family.readFrom found lines).result =
      endWith (firstFault? family.tag reader.fault? lines) (reader.gather found lines) := by
  -- the fault of a line does not hang on `found`, so what a line adds only moves `found` on
  induction lines generalizing found with
  | nil => rfl
  | cons line rest ih =>
    rw [Family.readFrom, Tag.values?_eq_wordsAfter? reader.isWord_tag]
    cases hwords : Tag.wordsAfter? family.tag line with
    | none =>
      have hfault : firstFault? family.tag reader.fault? (line :: rest) =
          firstFault? family.tag reader.fault? rest := by
        simp [firstFault?, hwords]
      have hgather : reader.gather found (line :: rest) = reader.gather found rest := by
        simp [gather, taggedWords, hwords]
      rw [hfault, hgather, ← ih found]
      rfl
    | some words =>
      have hfault : firstFault? family.tag reader.fault? (line :: rest) =
          (reader.fault? line words).or (firstFault? family.tag reader.fault? rest) := by
        rw [firstFault?, List.findSome?_cons, hwords, Option.bind_some, firstFault?]
        cases reader.fault? line words <;> rfl
      have hgather : reader.gather found (line :: rest) =
          reader.gather (reader.put found words) rest := by
        simp [gather, taggedWords, hwords]
      rw [hfault, hgather, Run.result_bind, reader.result_add]
      simp only [ih]
      cases reader.fault? line words <;> rfl

/-- A pass ends with the first fault of its lines, or with all that they add. -/
theorem result_read (lines : List String) :
    (family.read lines).result =
      endWith (firstFault? family.tag reader.fault? lines) (reader.gather family.start lines) :=
  reader.result_readFrom family.start lines

end Reader

/-! ## The passes of a scope -/

namespace Kinds

/-- A line of kinds has to name one. -/
def fault? (_ : String) (words : List String) : Option HeaderError :=
  if words.isEmpty then some (.noValues Tag.kinds) else none

theorem fault?_eq_none_iff {line : String} {words : List String} :
    fault? line words = none ↔ words ≠ [] := by
  simp [fault?]

def reader : Reader family where
  isWord_tag := Tag.isWord_kinds
  fault? := fault?
  put := insertWords
  result_add line words found := by
    cases words <;> rfl

end Kinds

namespace Labels

/-- The key and the value that a word gives, whether or not it may give them. -/
def entryOf (word : String) : String × String :=
  (Text.cutText? '=' word).getD (word, "")

/-- A word gives no label if its key is empty, or if it has no value and has to have one. -/
def isMalformed (policy : LabelPolicy) (word : String) : Bool :=
  word.toList.head? = some '=' || (policy = .reject && !word.toList.contains '=')

/-- A line of labels has to give one, and each of its words has to. -/
def fault? (policy : LabelPolicy) (_ : String) (words : List String) : Option HeaderError :=
  if words.isEmpty then some (.noValues Tag.labels)
  else (words.find? (isMalformed policy)).map .malformedLabel

theorem isMalformed_of_cut (policy : LabelPolicy) {word key value : String}
    (h : Text.cutText? '=' word = some (key, value)) :
    isMalformed policy word = decide (key = "") := by
  obtain ⟨hkey, hword⟩ := Text.cutText?_eq_some_iff.1 h
  have hmem : '=' ∈ word.toList := by simp [hword]
  have hhead : word.toList.head? = some '=' ↔ key = "" := by
    rw [hword, ← String.toList_eq_nil_iff]
    cases hchars : key.toList with
    | nil => simp
    | cons c rest =>
      rw [hchars, List.mem_cons, not_or] at hkey
      simp [Ne.symm hkey.1]
  simp [isMalformed, hmem, hhead]

theorem isMalformed_of_whole (policy : LabelPolicy) {word : String} (h : '=' ∉ word.toList) :
    isMalformed policy word = decide (policy = .reject) := by
  have hhead : word.toList.head? ≠ some '=' := fun he => h (List.mem_of_head? he)
  simp [isMalformed, h, hhead]

theorem entryOfWord_eq (policy : LabelPolicy) (word : String) :
    entryOfWord policy word =
      if isMalformed policy word then .error (.malformedLabel word) else .ok (entryOf word) := by
  unfold entryOfWord entryOf
  cases hcut : Text.cutText? '=' word with
  | none =>
    rw [isMalformed_of_whole policy (Text.cutText?_eq_none_iff.1 hcut)]
    cases policy <;> rfl
  | some parts =>
    rw [isMalformed_of_cut policy hcut]
    simp

theorem fault?_eq_none_iff {policy : LabelPolicy} {line : String} {words : List String} :
    fault? policy line words = none ↔ words ≠ [] ∧ ∀ w ∈ words, isMalformed policy w = false := by
  cases words <;> simp [fault?]

/-- Words give their labels up to the first word that gives none. -/
theorem insertWords_eq (policy : LabelPolicy) (labels : Labels) (words : List String) :
    labels.insertWords policy words =
      endWith ((words.find? (isMalformed policy)).map .malformedLabel)
        (labels.insertAll (words.map entryOf)) := by
  induction words generalizing labels with
  | nil => rfl
  | cons word rest ih =>
    rw [insertWords, entryOfWord_eq]
    by_cases hword : isMalformed policy word = true
    · rw [if_pos hword, List.find?_cons_of_pos hword]
      rfl
    · rw [if_neg hword, List.find?_cons_of_neg hword]
      exact ih (labels.insert (entryOf word).1 (entryOf word).2)

def reader (policy : LabelPolicy) : Reader (family policy) where
  isWord_tag := Tag.isWord_labels
  fault? := fault? policy
  put labels words := labels.insertAll (words.map entryOf)
  result_add line words found := by
    cases words with
    | nil => rfl
    | cons word rest => exact insertWords_eq policy found (word :: rest)

end Labels

namespace Requirement

/-- A line gives a requirement by two or three words. -/
def fault? (line : String) (words : List String) : Option HeaderError :=
  if words.length = 2 ∨ words.length = 3 then none
  else some (.requirementArity line words.length)

theorem fault?_eq_none_iff {line : String} {words : List String} :
    fault? line words = none ↔ (ofWords? words).isSome := by
  rcases words with _ | ⟨_, _ | ⟨_, _ | ⟨_, _ | ⟨_, _⟩⟩⟩⟩ <;> simp [fault?, ofWords?]

def reader : Reader family where
  isWord_tag := Tag.isWord_requirement
  fault? := fault?
  put requirements words := requirements ++ (ofWords? words).toList
  result_add line words found := by
    rcases words with _ | ⟨_, _ | ⟨_, _ | ⟨_, _ | ⟨_, _⟩⟩⟩⟩ <;> rfl

end Requirement

attribute [ext] Scope

namespace Scope

/-- The fault of the first pass that has one. -/
def fault? (policy : LabelPolicy) (lines : List String) : Option HeaderError :=
  (firstFault? Tag.kinds Kinds.fault? lines).or
    ((firstFault? Tag.labels (Labels.fault? policy) lines).or
      (firstFault? Tag.requirement Requirement.fault? lines))

/-- All that the lines of the three families add. -/
def gather (lines : List String) : Scope where
  kinds := Kinds.insertWords [] (taggedWords Tag.kinds lines).flatten
  labels := Labels.empty.insertAll ((taggedWords Tag.labels lines).flatten.map Labels.entryOf)
  requirements := (taggedWords Tag.requirement lines).filterMap Requirement.ofWords?

theorem result_read_kinds (lines : List String) :
    (Kinds.family.read lines).result =
      endWith (firstFault? Tag.kinds Kinds.fault? lines) (gather lines).kinds := by
  have hgather : Kinds.reader.gather [] lines = (gather lines).kinds := List.foldl_flatten.symm
  rw [Kinds.reader.result_read, ← hgather]
  rfl

theorem result_read_labels (policy : LabelPolicy) (lines : List String) :
    ((Labels.family policy).read lines).result =
      endWith (firstFault? Tag.labels (Labels.fault? policy) lines) (gather lines).labels := by
  have hgather : (Labels.reader policy).gather .empty lines = (gather lines).labels := by
    rw [gather, Labels.insertAll, List.map_flatten, List.foldl_flatten, List.foldl_map]
    rfl
  rw [(Labels.reader policy).result_read, ← hgather]
  rfl

theorem result_read_requirements (lines : List String) :
    (Requirement.family.read lines).result =
      endWith (firstFault? Tag.requirement Requirement.fault? lines) (gather lines).requirements := by
  have hfold : ∀ (found : List Requirement) (entries : List (List String)),
      entries.foldl Requirement.reader.put found =
        found ++ entries.filterMap Requirement.ofWords? := by
    intro found entries
    induction entries generalizing found with
    | nil => simp
    | cons words rest ih =>
      rw [List.foldl_cons, ih, List.filterMap_cons]
      cases hwords : Requirement.ofWords? words <;> simp [Requirement.reader, hwords]
  rw [Requirement.reader.result_read, Reader.gather, hfold]
  rfl

/-- A scope ends with the fault of the first pass that has one, or with all that the lines add. -/
theorem result_ofLines (settings : Settings) (lines : List String) :
    (ofLines settings lines).result =
      endWith (fault? settings.labelPolicy lines) (gather lines) := by
  rw [ofLines, Run.result_bind, result_read_kinds]
  simp only [Run.result_bind, result_read_labels, result_read_requirements]
  rw [fault?]
  cases firstFault? Tag.kinds Kinds.fault? lines <;>
    cases firstFault? Tag.labels (Labels.fault? settings.labelPolicy) lines <;>
    cases firstFault? Tag.requirement Requirement.fault? lines <;> rfl

end Scope

end PolicyHeader
