import PolicyHeader.Proofs.LabelPolicy
import PolicyHeader.Proofs.Settings.Document
import PolicyHeader.Proofs.Yaml.BlankText
import PolicyHeader.Settings.Json

/-!
# The readers of the label policy

A label policy can come from a text, a JSON string, an environment variable, a JSON object or a YAML
mapping. All of them know the same spellings (`readers_agree`). They differ in what becomes of a text that
names no policy: the variable is noted and passed over, and the others fail with one complaint.
-/

namespace PolicyHeader

namespace LabelPolicy

variable {text : String}

theorem ofText_eq_ok_iff {policy : LabelPolicy} : ofText text = .ok policy ↔ ofText? text = some policy := by
  unfold ofText
  cases ofText? text <;> simp

theorem ofText_eq_error_iff : ofText text = .error (unknownMessage text) ↔ ofText? text = none := by
  unfold ofText
  cases ofText? text <;> simp

theorem mapError_ofJson (text : String) :
    (ofJson (.string text)).mapError Json.DecodeError.message = ofText text := by
  rw [ofJson_string, ofText]
  cases ofText? text <;> rfl

end LabelPolicy

namespace Settings

/-! ## The variable -/

theorem fromUTF8?_toUTF8 (text : String) : String.fromUTF8? text.toUTF8 = some text := by
  simp only [String.fromUTF8?, String.toUTF8_eq_toByteArray, dif_pos text.isValidUTF8]
  rfl

theorem ofVariable_toUTF8 (text : String) :
    ofVariable (some text.toUTF8) =
      (LabelPolicy.ofText? text).elim (standard, [.unknownPolicy variableName text])
        fun policy => (⟨policy⟩, []) := by
  unfold ofVariable
  rw [Option.bind_some, fromUTF8?_toUTF8]
  dsimp only
  cases LabelPolicy.ofText? text <;> rfl

theorem ofVariable_eq_silent_iff {text : String} {policy : LabelPolicy} :
    ofVariable (some text.toUTF8) = (⟨policy⟩, []) ↔ LabelPolicy.ofText? text = some policy := by
  rw [ofVariable_toUTF8]
  cases LabelPolicy.ofText? text <;> simp

theorem ofVariable_eq_noted_iff {text : String} :
    ofVariable (some text.toUTF8) = (standard, [.unknownPolicy variableName text]) ↔
      LabelPolicy.ofText? text = none := by
  rw [ofVariable_toUTF8]
  cases LabelPolicy.ofText? text <;> simp

/-! ## Objects and mappings -/

theorem ofJson_object {text : String} {before after : List (String × Json)}
    (h : ∀ member ∈ before, member.1 ≠ labelPolicyKey) :
    (ofJson (.object (before ++ (labelPolicyKey, .string text) :: after))).mapError
        Json.DecodeError.message = (LabelPolicy.ofText text).map Settings.mk := by
  have hbefore : before.lookup labelPolicyKey = none := by
    rw [List.lookup_eq_none_iff]
    intro member hmember
    simpa using (h member hmember).symm
  have hlookup : (before ++ (labelPolicyKey, Json.string text) :: after).lookup labelPolicyKey =
      some (.string text) := by
    rw [List.lookup_append, hbefore, Option.none_or, List.lookup_cons_self]
  unfold ofJson Json.decodeRecord Json.Fields.optional
  dsimp only
  rw [hlookup, ← LabelPolicy.mapError_ofJson]
  dsimp only
  cases LabelPolicy.ofJson (.string text) <;> rfl

theorem not_isAllBlank_of_givesPolicy {source text : String}
    (h : GivesPolicy (.ofText source) text) : Text.isAllBlank source.toList = false := by
  obtain ⟨anchor, before, key, value, after, hevents, -⟩ := h.mapping
  rw [← Bool.not_eq_true]
  intro hblank
  rw [Yaml.Node.events] at hevents
  rcases Yaml.Document.events_ofText_of_isAllBlank hblank with hnone | ⟨content, hscalar⟩
  · rw [hnone] at hevents
    cases hevents
  · rw [hscalar] at hevents
    cases hevents

theorem ofText_of_givesPolicy {source text : String} (h : GivesPolicy (.ofText source) text) :
    (ofText source).mapError DocumentError.message = (LabelPolicy.ofText text).map Settings.mk := by
  unfold ofText
  rw [not_isAllBlank_of_givesPolicy h]
  exact ofDocument_of_givesPolicy h

/-- A mapping with a collection before the label policy and an alias after it. -/
def crowdedMapping : String :=
  "&a first: [x, \x7bk: v\x7d]\nmalformed_labels: \" Empty_Value\\t\"\nlast: *a\n"

theorem givesPolicy_crowdedMapping : GivesPolicy (.ofText crowdedMapping) " Empty_Value\t" := by
  refine ⟨by decide +kernel, by decide +kernel, none, [(.scalar (some 0) "first".toList true,
      .sequence none [.scalar none ['x'] true,
        .mapping none [(.scalar none ['k'] true, .scalar none ['v'] true)]])],
    .scalar none labelPolicyKey.toList true, .scalar none " Empty_Value\t".toList false,
    [(.scalar none "last".toList true, .alias 0)], by decide +kernel, ⟨_, rfl, rfl⟩, ⟨_, rfl, rfl⟩, ?_, ?_⟩
  · intro entry hentry
    obtain rfl := List.mem_singleton.1 hentry
    exact ⟨"first", ⟨_, rfl, rfl⟩, by decide⟩
  · intro entry hentry
    obtain rfl := List.mem_singleton.1 hentry
    exact ⟨"last", ⟨_, rfl, rfl⟩, by decide⟩

end Settings

end PolicyHeader
