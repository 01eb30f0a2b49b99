import PolicyHeader.Text.Pieces

/-!
# Resource kinds

The resource kinds that a policy applies to, gathered by API group. The core group has the empty name
and is written `core`. Gathering keeps the groups ascending and the kinds of each group ascending, so
the core group comes first and nothing is repeated.
-/

namespace PolicyHeader

/-- How the core group is written. -/
def coreGroup : String := "core"

/-- A resource kind in its API group. -/
structure ResourceKind where
  /-- The name of the group, empty for the core group. -/
  group : String
  kind : String
  deriving DecidableEq, Repr

namespace ResourceKind

/-- The resource kind that a word names: a group and a kind with a slash between them, or a kind of the
core group alone. Further slashes belong to the kind. -/
def ofWord (word : String) : ResourceKind :=
  match Text.cutText? '/' word with
  | none => ⟨"", word⟩
  | some (group, kind) => if group = coreGroup then ⟨"", kind⟩ else ⟨group, kind⟩

def text (resource : ResourceKind) : String :=
  (if resource.group = "" then coreGroup else resource.group) ++ "/" ++ resource.kind

end ResourceKind

/-- Kinds of one API group. -/
structure GroupKinds where
  /-- The name of the group, empty for the core group. -/
  group : String
  kinds : List String
  deriving DecidableEq, Repr

namespace GroupKinds

def isCore (entry : GroupKinds) : Bool :=
  entry.group = ""

def resources (entry : GroupKinds) : List ResourceKind :=
  entry.kinds.map fun kind => ⟨entry.group, kind⟩

end GroupKinds

/-- Resource kinds by API group. -/
abbrev Kinds := List GroupKinds

namespace Kinds

/-- All resource kinds, group by group. -/
def resources (kinds : Kinds) : List ResourceKind :=
  kinds.flatMap GroupKinds.resources

/-- The words that name the resource kinds. -/
def text (kinds : Kinds) : String :=
  " ".intercalate (kinds.resources.map ResourceKind.text)

/-- Puts a name into an ascending list, unless it is there. -/
def insertName (name : String) : List String → List String
  | [] => [name]
  | first :: rest =>
    if name < first then name :: first :: rest
    else if name = first then first :: rest
    else first :: insertName name rest

/-- Puts a resource kind among the kinds of its group. -/
def insert (resource : ResourceKind) : Kinds → Kinds
  | [] => [⟨resource.group, [resource.kind]⟩]
  | entry :: rest =>
    if resource.group < entry.group then ⟨resource.group, [resource.kind]⟩ :: entry :: rest
    else if resource.group = entry.group then
      ⟨entry.group, insertName resource.kind entry.kinds⟩ :: rest
    else entry :: insert resource rest

/-- Puts the resource kinds that some words name among the others. -/
def insertWords (kinds : Kinds) (words : List String) : Kinds :=
  words.foldl (fun kinds word => insert (.ofWord word) kinds) kinds

theorem mem_insertName {name other : String} {names : List String} :
    other ∈ insertName name names ↔ other = name ∨ other ∈ names := by
  induction names with
  | nil => simp [insertName]
  | cons first rest ih =>
    simp only [insertName]
    split
    · simp
    · split
      · next h => subst h; simp
      · simp [ih, or_left_comm]

/-- A resource kind is there after an insertion if it was inserted or was there before. -/
theorem mem_resources_insert {resource other : ResourceKind} {kinds : Kinds} :
    other ∈ (insert resource kinds).resources ↔ other = resource ∨ other ∈ kinds.resources := by
  induction kinds with
  | nil => simp [insert, resources, GroupKinds.resources]
  | cons entry rest ih =>
    simp only [resources, List.flatMap_cons, List.mem_append] at ih ⊢
    simp only [insert]
    split
    · simp [GroupKinds.resources]
    · split
      · next h =>
        obtain ⟨group, kind⟩ := resource
        simp only at h
        subst h
        simp only [List.flatMap_cons, List.mem_append, GroupKinds.resources, List.mem_map,
          mem_insertName, ← or_assoc]
        apply or_congr_left
        constructor
        · rintro ⟨name, rfl | hname, rfl⟩
          · exact .inl rfl
          · exact .inr ⟨name, hname, rfl⟩
        · rintro (rfl | ⟨name, hname, rfl⟩)
          · exact ⟨kind, .inl rfl, rfl⟩
          · exact ⟨name, .inr hname, rfl⟩
      · simp only [List.flatMap_cons, List.mem_append, ih, or_left_comm]

end Kinds

end PolicyHeader
