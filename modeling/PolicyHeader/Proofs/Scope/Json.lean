import PolicyHeader.Proofs.Json.Records
import PolicyHeader.Proofs.Scope.Labels
import PolicyHeader.Scope.Json

/-!
# Scopes to JSON and back

Each part of a scope is decoded from its JSON form as it was, whether or not lines could give it: nothing is
sorted, merged or dropped, and values that are left out because there are none come back as none. A record
may be spelled in other ways, and its parts as well, which changes nothing of what it is decoded to
(`Scope.json_forms_agree`).
-/

namespace PolicyHeader

open Json (Fields Respelling ReadsOnly decodeString decodeList decodeList_map)

/-! ## What is written is read back -/

theorem decodeList_strings (texts : List String) :
    decodeList decodeString (.array (texts.map .string)) = .ok texts :=
  decodeList_map .string (fun _ => rfl) texts

theorem GroupKinds.ofJson_toJson (entry : GroupKinds) : ofJson entry.toJson = .ok entry := by
  have hkinds := decodeList_strings entry.kinds
  simp [ofJson, toJson, Json.decodeRecord, Fields.required, List.lookup_cons, decodeString, hkinds, bind,
    Except.bind, pure, Except.pure]

theorem Kinds.ofJson_toJson (kinds : Kinds) : ofJson kinds.toJson = .ok kinds :=
  decodeList_map GroupKinds.toJson GroupKinds.ofJson_toJson kinds

theorem Labels.insertMembers_strings (labels : Labels) (entries : List (String × String)) :
    labels.insertMembers (entries.map fun entry => (entry.1, .string entry.2)) =
      .ok (labels.insertAll entries) := by
  induction entries generalizing labels with
  | nil => rfl
  | cons first rest ih => exact ih (labels.insert first.1 first.2)

theorem Labels.ofJson_toJson (labels : Labels) : ofJson labels.toJson = .ok labels := by
  rw [toJson, ofJson, insertMembers_strings, insertAll_entries]

theorem Requirement.ofJson_toJson (requirement : Requirement) :
    ofJson requirement.toJson = .ok requirement := by
  obtain ⟨key, operator, values⟩ := requirement
  by_cases hvalues : values = []
  · subst hvalues
    rfl
  · have hread := decodeList_strings values
    simp [ofJson, toJson, Json.decodeRecord, Fields.required, Fields.optional, List.lookup_cons,
      decodeString, hvalues, hread, bind, Except.bind, pure, Except.pure]

theorem Scope.ofJson_toJson (scope : Scope) : ofJson scope.toJson = .ok scope := by
  have hkinds := Kinds.ofJson_toJson scope.kinds
  have hlabels := Labels.ofJson_toJson scope.labels
  have hrequirements := decodeList_map Requirement.toJson Requirement.ofJson_toJson scope.requirements
  simp [ofJson, toJson, Json.decodeRecord, Fields.optional, List.lookup_cons, hkinds, hlabels,
    hrequirements, bind, Except.bind, pure, Except.pure]

/-! ## Other spellings -/

section respelling

variable {value other : Json}

theorem GroupKinds.ofJson_eq_of_respelling (h : Respelling ["apiGroup", "kinds"] value other) :
    ofJson value = ofJson other := by
  refine Json.decodeRecord_eq_of_respelling (fun first second hsame => ?_) h
  simp only [Fields.required, hsame "apiGroup" (by simp), hsame "kinds" (by simp)]

theorem Requirement.ofJson_eq_of_respelling (h : Respelling ["key", "operator", "values"] value other) :
    ofJson value = ofJson other := by
  refine Json.decodeRecord_eq_of_respelling (fun first second hsame => ?_) h
  simp only [Fields.required, Fields.optional, hsame "key" (by simp), hsame "operator" (by simp),
    hsame "values" (by simp)]

theorem Scope.ofJson_eq_of_respelling
    (h : Respelling ["kinds", "matchLabels", "matchExpressions"] value other) :
    ofJson value = ofJson other := by
  refine Json.decodeRecord_eq_of_respelling (fun first second hsame => ?_) h
  simp only [Fields.optional, hsame "kinds" (by simp), hsame "matchLabels" (by simp),
    hsame "matchExpressions" (by simp)]

end respelling

/-- Kinds and requirements may be spelled in other ways inside a scope. -/
theorem Scope.ofJson_parts_eq {kinds otherKinds requirements otherRequirements : List Json}
    (labels : Json) (hkinds : List.Forall₂ (Respelling ["apiGroup", "kinds"]) kinds otherKinds)
    (hrequirements : List.Forall₂ (Respelling ["key", "operator", "values"]) requirements
      otherRequirements) :
    ofJson (.object [("kinds", .array kinds), ("matchLabels", labels),
        ("matchExpressions", .array requirements)]) =
      ofJson (.object [("kinds", .array otherKinds), ("matchLabels", labels),
        ("matchExpressions", .array otherRequirements)]) := by
  have hk : Kinds.ofJson (.array kinds) = Kinds.ofJson (.array otherKinds) :=
    Json.decodeList_congr (hkinds.imp fun _ _ => GroupKinds.ofJson_eq_of_respelling)
  have hr : decodeList Requirement.ofJson (.array requirements) =
      decodeList Requirement.ofJson (.array otherRequirements) :=
    Json.decodeList_congr (hrequirements.imp fun _ _ => Requirement.ofJson_eq_of_respelling)
  simp [ofJson, Json.decodeRecord, Fields.optional, List.lookup_cons, hk, hr]

/-- **The JSON forms agree.** Every part of a scope, and every scope, is decoded from its JSON form as it was;
a requirement without values has no member for them. Kinds of a group, requirements and scopes are decoded to
the same value, or not at all, when the members of their object are put in another order, when members of
other names are added or taken away, and when all their fields are given and then are listed in an array.
That holds inside a scope too, for any number of parts. -/
theorem Scope.json_forms_agree :
    (∀ entry : GroupKinds, GroupKinds.ofJson entry.toJson = .ok entry) ∧
    (∀ kinds : Kinds, Kinds.ofJson kinds.toJson = .ok kinds) ∧
    (∀ labels : Labels, Labels.ofJson labels.toJson = .ok labels) ∧
    (∀ requirement : Requirement, Requirement.ofJson requirement.toJson = .ok requirement) ∧
    (∀ key operator, (⟨key, operator, []⟩ : Requirement).toJson =
      .object [("key", .string key), ("operator", .string operator)]) ∧
    (∀ scope : Scope, ofJson scope.toJson = .ok scope) ∧
    (∀ value other, Respelling ["apiGroup", "kinds"] value other →
      (GroupKinds.ofJson value).toOption = (GroupKinds.ofJson other).toOption) ∧
    (∀ value other, Respelling ["key", "operator", "values"] value other →
      (Requirement.ofJson value).toOption = (Requirement.ofJson other).toOption) ∧
    (∀ value other, Respelling ["kinds", "matchLabels", "matchExpressions"] value other →
      (ofJson value).toOption = (ofJson other).toOption) ∧
    ∀ kinds otherKinds requirements otherRequirements labels,
      List.Forall₂ (Respelling ["apiGroup", "kinds"]) kinds otherKinds →
      List.Forall₂ (Respelling ["key", "operator", "values"]) requirements otherRequirements →
        (ofJson (.object [("kinds", .array kinds), ("matchLabels", labels),
            ("matchExpressions", .array requirements)])).toOption =
          (ofJson (.object [("kinds", .array otherKinds), ("matchLabels", labels),
            ("matchExpressions", .array otherRequirements)])).toOption := by
  refine ⟨GroupKinds.ofJson_toJson, Kinds.ofJson_toJson, Labels.ofJson_toJson, Requirement.ofJson_toJson,
    fun _ _ => rfl, ofJson_toJson, fun _ _ h => ?_, fun _ _ h => ?_, fun _ _ h => ?_,
    fun _ _ _ _ labels hkinds hrequirements => ?_⟩
  · rw [GroupKinds.ofJson_eq_of_respelling h]
  · rw [Requirement.ofJson_eq_of_respelling h]
  · rw [ofJson_eq_of_respelling h]
  · rw [ofJson_parts_eq labels hkinds hrequirements]

/-- Kinds of a group as an array, a requirement with a member too many, a scope in another order that is no
scope in any, and a scope whose one requirement is an array. -/
theorem Scope.json_forms_agree_of_odd_forms :
    (GroupKinds.ofJson (.array [.string "core", .array []])).toOption = some ⟨"core", []⟩ ∧
    (Requirement.ofJson
      (.object [("key", .string ""), ("value", .null), ("operator", .string "In")])).toOption =
        some ⟨"", "In", []⟩ ∧
    (ofJson (.object [("matchLabels", .array []), ("kinds", .null)])).toOption = none ∧
    (ofJson (.object [("kinds", .array []), ("matchLabels", .object []),
      ("matchExpressions", .array [.array [.string "k", .string "In", .array [.string ""]]])])).toOption =
        some ⟨[], .empty, [⟨"k", "In", [""]⟩]⟩ := by
  obtain ⟨hentry, -, -, hrequirement, hplain, hscope, hentries, hrequirements, hscopes, hparts⟩ :=
    json_forms_agree
  have hlisted := hentries (⟨"core", []⟩ : GroupKinds).toJson (.array [.string "core", .array []])
    (.listed (by decide) rfl)
  have hextended := hrequirements (⟨"", "In", []⟩ : Requirement).toJson
    (.object [("key", .string ""), ("value", .null), ("operator", .string "In")])
    (@Respelling.extended _ [("key", .string "")] [("operator", .string "In")] _ _ (by decide) (by decide))
  have hreordered := hscopes (.object [("kinds", .null), ("matchLabels", .array [])])
    (.object [("matchLabels", .array []), ("kinds", .null)]) (.reordered (by decide) (List.Perm.swap _ _ _))
  have hnested := hparts [] [] [(⟨"k", "In", [""]⟩ : Requirement).toJson]
    [.array [.string "k", .string "In", .array [.string ""]]] (.object []) .nil
    (.cons (.listed (by decide) rfl) .nil)
  refine ⟨?_, ?_, ?_, ?_⟩
  · rw [← hlisted, hentry]
    rfl
  · rw [← hextended, hrequirement]
    rfl
  · rw [← hreordered]
    rfl
  · exact hnested.symm.trans (congrArg Except.toOption (hscope ⟨[], .empty, [⟨"k", "In", [""]⟩]⟩))

end PolicyHeader
