import PolicyHeader.Settings.Document

/-!
# Reading a settings document

The events of a document are those of a tree of nodes. A value that is passed over is passed over as a
whole, however its collections are nested (`readMapping_value`). So a mapping gives the label policy that
stands in it, whatever its other entries are (`ofDocument_of_givesPolicy`).
-/

namespace PolicyHeader

namespace Yaml

/-- A node of a document with the nodes in it. -/
inductive Node
  | scalar (anchor : Option Nat) (text : List Char) (plain : Bool)
  | alias (target : Nat)
  | sequence (anchor : Option Nat) (items : List Node)
  | mapping (anchor : Option Nat) (entries : List (Node × Node))

namespace Node

mutual

/-- The events of a node, in the order of the text. -/
def events : Node → List (Event Nat)
  | .scalar anchor text plain => [.scalar anchor text plain]
  | .alias target => [.alias target]
  | .sequence anchor items => .sequenceStart anchor :: (itemsEvents items ++ [.sequenceEnd])
  | .mapping anchor entries => .mappingStart anchor :: (entriesEvents entries ++ [.mappingEnd])

/-- The events of some nodes, one after another. -/
def itemsEvents : List Node → List (Event Nat)
  | [] => []
  | item :: rest => item.events ++ itemsEvents rest

/-- The events of the keys and values of some entries. -/
def entriesEvents : List (Node × Node) → List (Event Nat)
  | [] => []
  | (key, value) :: rest => key.events ++ value.events ++ entriesEvents rest

end

theorem entriesEvents_append (first second : List (Node × Node)) :
    entriesEvents (first ++ second) = entriesEvents first ++ entriesEvents second := by
  induction first with
  | nil => rfl
  | cons entry rest ih => simp only [List.cons_append, entriesEvents, ih, List.append_assoc]

end Node

end Yaml

namespace Settings

open Yaml (Document Event Node)

/-- Whether a node is a scalar, or an alias of one, with a text. -/
def Holds (document : Document) (node : Node) (text : String) : Prop :=
  ∃ event, node.events = [event] ∧ scalarText? document event = some text

/-- Whether a node is the key of something else than the label policy. -/
def IsOtherKey (document : Document) (key : Node) : Prop :=
  ∃ text, Holds document key text ∧ text ≠ labelPolicyKey

/-- A document that is a mapping where a text stands for the label policy, among other entries. -/
structure GivesPolicy (document : Document) (text : String) : Prop where
  fault : document.fault = none
  followed : document.followed = false
  mapping : ∃ anchor before key value after,
    document.events = (Node.mapping anchor (before ++ (key, value) :: after)).events ∧
      Holds document key labelPolicyKey ∧ Holds document value text ∧
      (∀ entry ∈ before, IsOtherKey document entry.1) ∧ ∀ entry ∈ after, IsOtherKey document entry.1

section mapping

variable {document : Document} {found : Option LabelPolicy}

/-!
## Values that are passed over

The depth counts the collections that are open around the reader, so what is said of a value is said at every
depth and before any other events.
-/

mutual

theorem readMapping_value (depth : Nat) (rest : List (Event Nat)) : ∀ node : Node,
    readMapping document found (.value depth) (node.events ++ rest) =
      readMapping document found (if depth = 0 then .key else .value depth) rest
  | .scalar _ _ _ => rfl
  | .alias _ => rfl
  | .sequence anchor items => by
    have hitems := readMapping_items depth (.sequenceEnd :: rest) items
    simp only [Node.events, List.cons_append, List.append_assoc, List.nil_append]
    rw [readMapping]
    exact hitems
  | .mapping anchor entries => by
    have hentries := readMapping_entries depth (.mappingEnd :: rest) entries
    simp only [Node.events, List.cons_append, List.append_assoc, List.nil_append]
    rw [readMapping]
    exact hentries

/-- Inside a collection the reader comes back to the depth that it had before an item. -/
theorem readMapping_items (depth : Nat) (rest : List (Event Nat)) : ∀ items : List Node,
    readMapping document found (.value (depth + 1)) (Node.itemsEvents items ++ rest) =
      readMapping document found (.value (depth + 1)) rest
  | [] => rfl
  | item :: items => by
    rw [Node.itemsEvents, List.append_assoc, readMapping_value, if_neg (Nat.succ_ne_zero depth)]
    exact readMapping_items depth rest items

theorem readMapping_entries (depth : Nat) (rest : List (Event Nat)) : ∀ entries : List (Node × Node),
    readMapping document found (.value (depth + 1)) (Node.entriesEvents entries ++ rest) =
      readMapping document found (.value (depth + 1)) rest
  | [] => rfl
  | (key, value) :: entries => by
    rw [Node.entriesEvents, List.append_assoc, List.append_assoc, readMapping_value,
      if_neg (Nat.succ_ne_zero depth), readMapping_value, if_neg (Nat.succ_ne_zero depth)]
    exact readMapping_entries depth rest entries

end

/-! ## The entries of a mapping -/

theorem readMapping_key {key : Node} {text : String} (h : Holds document key text)
    (rest : List (Event Nat)) :
    readMapping document found .key (key.events ++ rest) =
      if text = labelPolicyKey then
        if found.isSome then .error .repeatedKey else readMapping document found .policy rest
      else readMapping document found (.value 0) rest := by
  obtain ⟨event, hevents, htext⟩ := h
  have hend : event ≠ .mappingEnd := by
    rintro rfl
    cases htext
  rw [hevents, List.singleton_append, readMapping, htext]
  exact hend

theorem readMapping_policy {value : Node} {text : String} (h : Holds document value text)
    (rest : List (Event Nat)) :
    readMapping document found .policy (value.events ++ rest) =
      match LabelPolicy.ofText? text with
      | none => .error (.unknownPolicy text)
      | some policy => readMapping document (some policy) .key rest := by
  obtain ⟨event, hevents, htext⟩ := h
  rw [hevents, List.singleton_append]
  cases hread : LabelPolicy.ofText? text <;> simp only [readMapping, htext, hread]

theorem readMapping_others {entries : List (Node × Node)}
    (h : ∀ entry ∈ entries, IsOtherKey document entry.1) (rest : List (Event Nat)) :
    readMapping document found .key (Node.entriesEvents entries ++ rest) =
      readMapping document found .key rest := by
  induction entries with
  | nil => rfl
  | cons entry entries ih =>
    obtain ⟨⟨text, hkey, hne⟩, hrest⟩ := List.forall_mem_cons.1 h
    rw [Node.entriesEvents, List.append_assoc, List.append_assoc, readMapping_key hkey, if_neg hne,
      readMapping_value, if_pos rfl, ih hrest]

end mapping

theorem readEvents_of_givesPolicy {document : Document} {text : String}
    (h : GivesPolicy document text) :
    readEvents document =
      match LabelPolicy.ofText? text with
      | none => .error (.unknownPolicy text)
      | some policy => .ok (some policy) := by
  obtain ⟨anchor, before, key, value, after, hevents, hkey, hvalue, hbefore, hafter⟩ := h.mapping
  rw [readEvents, hevents, Node.events]
  simp only [Node.entriesEvents_append, Node.entriesEvents, List.append_assoc]
  rw [readMapping_others hbefore, readMapping_key hkey, if_pos rfl]
  simp only [Option.isSome_none, Bool.false_eq_true, if_false]
  rw [readMapping_policy hvalue]
  cases LabelPolicy.ofText? text with
  | none => rfl
  | some policy =>
    dsimp only
    rw [readMapping_others hafter, readMapping]

/-- A mapping is read as the text that stands in it for the label policy. -/
theorem ofDocument_of_givesPolicy {document : Document} {text : String}
    (h : GivesPolicy document text) :
    (ofDocument document).mapError DocumentError.message =
      (LabelPolicy.ofText text).map Settings.mk := by
  rw [ofDocument, readEvents_of_givesPolicy h, h.fault, h.followed, LabelPolicy.ofText]
  cases LabelPolicy.ofText? text with
  | none => rfl
  | some policy => rfl

end Settings

end PolicyHeader
