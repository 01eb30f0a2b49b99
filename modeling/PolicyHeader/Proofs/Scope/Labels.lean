import PolicyHeader.Proofs.Ascending
import PolicyHeader.Scope.Labels

/-!
# Label sets by their values

Two label sets that give every key the same value are equal (`ext_get?`). Giving labels one after another
on top of a label set is the same as gathering them first and putting the outcome over the label set
(`insertAll_eq_override`).
-/

namespace PolicyHeader.Labels

/-! ## Values and entries -/

theorem nodup_keys (labels : Labels) : (labels.entries.map Prod.fst).Nodup :=
  List.pairwise_map.2 (labels.ascending.imp fun h => String.ne_of_lt h)

theorem get?_eq_some_iff (labels : Labels) {key value : String} :
    labels.get? key = some value ↔ (key, value) ∈ labels.entries :=
  lookup_eq_some_iff_mem labels.nodup_keys

/-- A label set is settled by the values of its keys. -/
theorem ext_get? {first second : Labels} (h : ∀ key, first.get? key = second.get? key) :
    first = second := by
  have hentries : first.entries = second.entries := by
    refine eq_of_ascending Prod.fst first.ascending second.ascending fun entry => ?_
    rw [← get?_eq_some_iff, ← get?_eq_some_iff, h]
  cases first
  cases second
  simp_all

/-! ## Many labels at once -/

/-- Gives each key of some entries its value, in order. -/
def insertAll (labels : Labels) (entries : List (String × String)) : Labels :=
  entries.foldl (fun labels entry => labels.insert entry.1 entry.2) labels

theorem insertAll_append (labels : Labels) (first second : List (String × String)) :
    labels.insertAll (first ++ second) = (labels.insertAll first).insertAll second :=
  List.foldl_append

/-- The last entry of a key gives its value, and a key without an entry keeps the value it had. -/
theorem get?_insertAll (labels : Labels) (entries : List (String × String)) (key : String) :
    (labels.insertAll entries).get? key = (entries.reverse.lookup key).or (labels.get? key) := by
  induction entries generalizing labels with
  | nil => rfl
  | cons first rest ih =>
    have hstep : labels.insertAll (first :: rest) =
        (labels.insert first.1 first.2).insertAll rest := rfl
    rw [hstep, ih, get?_insert, List.reverse_cons, List.lookup_append, Option.or_assoc,
      List.lookup_singleton]
    by_cases hkey : key = first.1 <;> simp [hkey]

theorem get?_empty (key : String) : empty.get? key = none :=
  rfl

/-- The entries of a label set give the label set. -/
theorem insertAll_entries (labels : Labels) : empty.insertAll labels.entries = labels := by
  refine ext_get? fun key => Option.ext fun value => ?_
  rw [get?_insertAll, get?_empty, Option.or_none, get?,
    lookup_eq_of_perm labels.nodup_keys (List.reverse_perm _).symm]

/-- The labels of two sets. A key of both has its value from the second. -/
def override (first second : Labels) : Labels :=
  first.insertAll second.entries

theorem get?_override (first second : Labels) (key : String) :
    (first.override second).get? key = (second.get? key).or (first.get? key) := by
  have hsecond := get?_insertAll empty second.entries key
  rw [insertAll_entries, get?_empty, Option.or_none] at hsecond
  rw [override, get?_insertAll, hsecond]

/-- Labels may be gathered before they are put over a label set. -/
theorem insertAll_eq_override (labels : Labels) (entries : List (String × String)) :
    labels.insertAll entries = labels.override (empty.insertAll entries) := by
  refine ext_get? fun key => ?_
  rw [get?_insertAll, get?_override, get?_insertAll, get?_empty, Option.or_none]

/-! ## Members -/

theorem mem_entries_insertAll {labels : Labels} {entries : List (String × String)}
    {entry : String × String} (h : entry ∈ (labels.insertAll entries).entries) :
    entry ∈ entries ∨ entry ∈ labels.entries := by
  induction entries generalizing labels with
  | nil => exact .inr h
  | cons first rest ih =>
    have hrest : entry ∈ ((labels.insert first.1 first.2).insertAll rest).entries := h
    rcases ih hrest with hmem | hmem
    · exact .inl (List.mem_cons_of_mem _ hmem)
    · rcases mem_insertEntry hmem with rfl | hold
      · exact .inl List.mem_cons_self
      · exact .inr hold

end PolicyHeader.Labels
