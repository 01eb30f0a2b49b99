import PolicyHeader.Text.Pieces

/-!
# Labels

The labels that a policy asks for: a value for each of some keys. The entries ascend by key, so a key
has one value and two label sets with the same values are equal.
-/

namespace PolicyHeader

/-- Keys with their values, ascending by key. -/
structure Labels where
  entries : List (String × String)
  ascending : entries.Pairwise fun first second => first.1 < second.1
  deriving DecidableEq

namespace Labels

def empty : Labels :=
  ⟨[], .nil⟩

instance : Inhabited Labels :=
  ⟨empty⟩

def isEmpty (labels : Labels) : Bool :=
  labels.entries.isEmpty

def size (labels : Labels) : Nat :=
  labels.entries.length

/-- The value of a key. -/
def get? (labels : Labels) (key : String) : Option String :=
  labels.entries.lookup key

/-- Puts an entry at its place, over the entry of the same key if there is one. -/
def insertEntry (key value : String) : List (String × String) → List (String × String)
  | [] => [(key, value)]
  | first :: rest =>
    if key < first.1 then (key, value) :: first :: rest
    else if key = first.1 then (key, value) :: rest
    else first :: insertEntry key value rest

theorem mem_insertEntry {key value : String} {entry : String × String}
    {entries : List (String × String)} (h : entry ∈ insertEntry key value entries) :
    entry = (key, value) ∨ entry ∈ entries := by
  induction entries with
  | nil => simpa [insertEntry] using h
  | cons first rest ih =>
    simp only [insertEntry] at h
    split at h
    · simpa using h
    · split at h
      · rcases List.mem_cons.1 h with h | h
        · exact .inl h
        · exact .inr (List.mem_cons_of_mem _ h)
      · rcases List.mem_cons.1 h with rfl | h
        · exact .inr List.mem_cons_self
        · exact (ih h).imp_right (List.mem_cons_of_mem _)

theorem insertEntry_ascending (key value : String) {entries : List (String × String)}
    (h : entries.Pairwise fun first second => first.1 < second.1) :
    (insertEntry key value entries).Pairwise fun first second => first.1 < second.1 := by
  induction entries with
  | nil => simp [insertEntry]
  | cons first rest ih =>
    obtain ⟨hfirst, hrest⟩ := List.pairwise_cons.1 h
    simp only [insertEntry]
    split
    · next hlt =>
      refine List.pairwise_cons.2 ⟨?_, h⟩
      intro entry hentry
      rcases List.mem_cons.1 hentry with rfl | hentry
      · exact hlt
      · exact String.lt_trans hlt (hfirst entry hentry)
    · next hnlt =>
      split
      · next heq => exact List.pairwise_cons.2 ⟨heq ▸ hfirst, hrest⟩
      · next hne =>
        refine List.pairwise_cons.2 ⟨?_, ih hrest⟩
        intro entry hentry
        rcases mem_insertEntry hentry with rfl | hentry
        · exact Std.lt_of_le_of_ne (Std.not_lt.1 hnlt) (Ne.symm hne)
        · exact hfirst entry hentry

/-- Gives a key a value, in place of the value it had. -/
def insert (labels : Labels) (key value : String) : Labels :=
  ⟨insertEntry key value labels.entries, insertEntry_ascending key value labels.ascending⟩

/-- The words that give the labels, each a key and a value with an equals sign between them. -/
def text (labels : Labels) : String :=
  " ".intercalate (labels.entries.map fun entry => entry.1 ++ "=" ++ entry.2)

theorem lookup_insertEntry (key value other : String) (entries : List (String × String)) :
    (insertEntry key value entries).lookup other =
      if other = key then some value else entries.lookup other := by
  induction entries with
  | nil => by_cases hk : other = key <;> simp [insertEntry, List.lookup_cons, hk, beq_eq_false_iff_ne.2]
  | cons first rest ih =>
    obtain ⟨k, v⟩ := first
    simp only [insertEntry]
    split
    · by_cases hk : other = key <;> simp [List.lookup_cons, hk, beq_eq_false_iff_ne.2]
    · split
      · next heq =>
        subst heq
        by_cases hk : other = key <;> simp [List.lookup_cons, hk, beq_eq_false_iff_ne.2]
      · next hne =>
        by_cases hk : other = key
        · subst hk
          simp [List.lookup_cons, ih, beq_eq_false_iff_ne.2 hne]
        · simp [List.lookup_cons, ih, hk]

/-- An insertion changes the value of its key and of no other. -/
theorem get?_insert (labels : Labels) (key value other : String) :
    (labels.insert key value).get? other = if other = key then some value else labels.get? other :=
  lookup_insertEntry key value other labels.entries

end Labels

end PolicyHeader
