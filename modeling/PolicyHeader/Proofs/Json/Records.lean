import PolicyHeader.Json.Decode
import PolicyHeader.Proofs.Ascending
import Mathlib.Data.List.Forall2

/-!
# Spellings of a record

A record decoder looks at its fields by name and at nothing else (`ReadsOnly`). So it does not tell apart two
values that give these fields the same way: objects that differ in the order of their members or in members
of other names, and the array of all fields in their order (`decodeRecord_eq_of_respelling`).
-/

namespace PolicyHeader.Json

variable {α : Type}

/-- The second value gives the same fields of these names as the first. -/
inductive Respelling (names : List String) : Json → Json → Prop
  | reordered {members others : List (String × Json)} (hdistinct : (members.map Prod.fst).Nodup)
      (h : members.Perm others) : Respelling names (.object members) (.object others)
  | extended {before after : List (String × Json)} {name : String} {value : Json}
      (hdistinct : ((before ++ (name, value) :: after).map Prod.fst).Nodup) (h : name ∉ names) :
      Respelling names (.object (before ++ after)) (.object (before ++ (name, value) :: after))
  | listed {members : List (String × Json)} {values : List Json}
      (hdistinct : (members.map Prod.fst).Nodup)
      (h : names.map (fun name => members.lookup name) = values.map some) :
      Respelling names (.object members) (.array values)

/-- What the decoder makes of some fields hangs on the fields of these names alone. -/
def ReadsOnly (names : List String) (decode : Fields → Except DecodeError α) : Prop :=
  ∀ first second : Fields, (∀ name ∈ names, first name = second name) → decode first = decode second

theorem lookup_insert_of_ne {before after : List (String × Json)} {name other : String} {value : Json}
    (h : other ≠ name) :
    (before ++ (name, value) :: after).lookup other = (before ++ after).lookup other := by
  rw [List.lookup_append, List.lookup_append, List.lookup_cons, beq_eq_false_iff_ne.2 h]

/-- Fields that are listed in the order of their names are found by their names. -/
theorem lookup_zip {names : List String} {values : List Json} {fields : Fields}
    (h : names.map fields = values.map some) {name : String} (hname : name ∈ names) :
    (names.zip values).lookup name = fields name := by
  induction names generalizing values with
  | nil => cases hname
  | cons first rest ih =>
    cases values with
    | nil => cases h
    | cons value values =>
      simp only [List.map_cons, List.cons.injEq] at h
      rw [List.zip_cons_cons, List.lookup_cons]
      by_cases hfirst : name = first
      · subst hfirst
        simp [h.1]
      · rw [beq_eq_false_iff_ne.2 hfirst]
        exact ih h.2 ((List.mem_cons.1 hname).resolve_left hfirst)

theorem decodeRecord_eq_of_respelling {names : List String} {decode : Fields → Except DecodeError α}
    (hreads : ReadsOnly names decode) {value other : Json} (h : Respelling names value other) :
    decodeRecord names decode value = decodeRecord names decode other := by
  cases h with
  | reordered hdistinct h =>
    exact hreads _ _ fun name _ => lookup_eq_of_perm hdistinct h name
  | extended _ h =>
    refine hreads _ _ fun name hname => (lookup_insert_of_ne ?_).symm
    rintro rfl
    exact h hname
  | @listed members values _ h =>
    have hfields : decode (fun name => (names.zip values).lookup name) =
        decode fun name => members.lookup name :=
      hreads _ _ fun name hname => lookup_zip h hname
    have hlength : values.length ≤ names.length := by
      have hlengths := congrArg List.length h
      simp only [List.length_map] at hlengths
      omega
    simp only [decodeRecord, hfields, hlength, if_true]
    cases decode fun name => members.lookup name <;> rfl

/-! ## Lists of values -/

theorem decodeList_map {decode : Decoder α} (encode : α → Json) (h : ∀ x, decode (encode x) = .ok x)
    (xs : List α) : decodeList decode (.array (xs.map encode)) = .ok xs := by
  rw [decodeList]
  induction xs with
  | nil => rfl
  | cons x rest ih =>
    rw [List.map_cons, List.mapM_cons, h, ih]
    rfl

/-- Values that are decoded the same are decoded the same in a list. -/
theorem decodeList_congr {decode : Decoder α} {values others : List Json}
    (h : List.Forall₂ (fun value other => decode value = decode other) values others) :
    decodeList decode (.array values) = decodeList decode (.array others) := by
  rw [decodeList, decodeList]
  induction h with
  | nil => rfl
  | cons hfirst _ ih => rw [List.mapM_cons, List.mapM_cons, hfirst, ih]

end PolicyHeader.Json
