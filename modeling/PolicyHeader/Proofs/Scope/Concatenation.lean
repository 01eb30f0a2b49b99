import PolicyHeader.Proofs.Scope.Faults
import PolicyHeader.Proofs.Scope.Kinds

/-!
# Reading lines after other lines

What some lines and then others come to is settled by what each come to alone. Two scopes merge, an
error stays as it is beside a scope, and of two errors the one from the earlier pass counts
(`result_ofLines_append`). So more lines never mend a header that is at fault.
-/

namespace PolicyHeader

/-- The error that a run ends with. -/
def Run.error? {α : Type} (run : Run α) : Option HeaderError :=
  match run.result with
  | .ok _ => none
  | .error error => some error

theorem Run.error?_of_result {α : Type} {run : Run α} {fault? : Option HeaderError} {value : α}
    (h : run.result = endWith fault? value) : run.error? = fault? := by
  rw [Run.error?, h]
  cases fault? <;> rfl

/-- The pass that an error arises in: kinds are read in pass 0, labels in pass 1, and requirements in
pass 2. That a line does not carry a tag is an error of no pass. -/
def HeaderError.pass : HeaderError → Nat
  | .noValues tag => if tag = Tag.kinds then 0 else 1
  | .malformedLabel _ => 1
  | .requirementArity _ _ => 2
  | .tagMismatch _ => 3

theorem pass_of_firstFault?_kinds {lines : List String} {error : HeaderError}
    (h : firstFault? Tag.kinds Kinds.fault? lines = some error) : error.pass = 0 := by
  rw [eq_of_firstFault?_kinds h]
  rfl

theorem pass_of_firstFault?_labels {policy : LabelPolicy} {lines : List String} {error : HeaderError}
    (h : firstFault? Tag.labels (Labels.fault? policy) lines = some error) : error.pass = 1 := by
  rcases eq_of_firstFault?_labels h with rfl | ⟨_, rfl⟩ <;> rfl

theorem pass_of_firstFault?_requirement {lines : List String} {error : HeaderError}
    (h : firstFault? Tag.requirement Requirement.fault? lines = some error) : error.pass = 2 := by
  obtain ⟨_, -, _, rfl⟩ := eq_of_firstFault?_requirement h
  rfl

/-! ## Merging scopes -/

/-- The resource kinds of both, gathered anew. -/
def Kinds.union (first second : Kinds) : Kinds :=
  ofResources (first.resources ++ second.resources)

theorem Kinds.mem_resources_union {first second : Kinds} {resource : ResourceKind} :
    resource ∈ (first.union second).resources ↔
      resource ∈ first.resources ∨ resource ∈ second.resources := by
  rw [union, mem_resources_ofResources, List.mem_append]

theorem Kinds.ofResources_append (first second : List ResourceKind) :
    ofResources (first ++ second) = (ofResources first).union (ofResources second) := by
  refine (ofResources_ordered _).ext (ofResources_ordered _) fun resource => ?_
  rw [mem_resources_union, mem_resources_ofResources, mem_resources_ofResources,
    mem_resources_ofResources, List.mem_append]

namespace Scope

/-- The scope that two scopes come to together. Labels of the second count before those of the first. -/
def merge (first second : Scope) : Scope where
  kinds := first.kinds.union second.kinds
  labels := first.labels.override second.labels
  requirements := first.requirements ++ second.requirements

/-- What it means for a scope to be merged from two scopes. -/
structure IsMerge (first second merged : Scope) : Prop where
  ordered : merged.kinds.Ordered
  mem_resources : ∀ resource, resource ∈ merged.kinds.resources ↔
    resource ∈ first.kinds.resources ∨ resource ∈ second.kinds.resources
  get?_labels : ∀ key,
    merged.labels.get? key = (second.labels.get? key).or (first.labels.get? key)
  requirements : merged.requirements = first.requirements ++ second.requirements

theorem isMerge_merge (first second : Scope) : IsMerge first second (first.merge second) where
  ordered := Kinds.ofResources_ordered _
  mem_resources _ := Kinds.mem_resources_union
  get?_labels := Labels.get?_override first.labels second.labels
  requirements := rfl

/-- There is one scope that is merged from two scopes. -/
theorem isMerge_iff {first second merged : Scope} :
    IsMerge first second merged ↔ merged = first.merge second := by
  have hmerge := isMerge_merge first second
  constructor
  · intro h
    ext1
    · refine h.ordered.ext hmerge.ordered fun resource => ?_
      rw [h.mem_resources, hmerge.mem_resources]
    · refine Labels.ext_get? fun key => ?_
      exact (h.get?_labels key).trans (hmerge.get?_labels key).symm
    · exact h.requirements
  · rintro rfl
    exact hmerge

theorem gather_append (first second : List String) :
    gather (first ++ second) = (gather first).merge (gather second) := by
  ext1
  · simp only [gather, merge, taggedWords_append, List.flatten_append, Kinds.insertWords_nil,
      List.map_append, Kinds.ofResources_append]
  · simp only [gather, merge, taggedWords_append, List.flatten_append, List.map_append,
      Labels.insertAll_append]
    exact Labels.insertAll_eq_override _ _
  · simp only [gather, merge, taggedWords_append, List.filterMap_append]

/-! ## Joining faults -/

/-- Of two faults the second counts only if it is from an earlier pass. -/
def joinFaults : Option HeaderError → Option HeaderError → Option HeaderError
  | some error, some later => if later.pass < error.pass then some later else some error
  | some error, none => some error
  | none, later => later

/-- Within one pass the first fault counts. -/
theorem joinFaults_eq_or {n : Nat} {first second : Option HeaderError}
    (hfirst : ∀ error ∈ first, error.pass = n) (hsecond : ∀ error ∈ second, error.pass = n) :
    joinFaults first second = first.or second := by
  cases first with
  | none => rfl
  | some error =>
    cases second with
    | none => rfl
    | some later =>
      have hpass : ¬ later.pass < error.pass := by
        rw [hfirst error rfl, hsecond later rfl]
        exact Nat.lt_irrefl n
      rw [joinFaults, if_neg hpass, Option.some_or]

/-- Faults are joined pass by pass: a fault of pass `n` counts before all faults of later passes. -/
theorem joinFaults_or {n : Nat} {first second later later' : Option HeaderError}
    (hfirst : ∀ error ∈ first, error.pass = n) (hsecond : ∀ error ∈ second, error.pass = n)
    (hlater : ∀ error ∈ later, n < error.pass) (hlater' : ∀ error ∈ later', n < error.pass) :
    joinFaults (first.or later) (second.or later') =
      (first.or second).or (joinFaults later later') := by
  cases first with
  | none =>
    cases second with
    | none => rfl
    | some error =>
      -- a fault of pass `n` in the second lines counts before one of a later pass in the first
      cases later with
      | none => rfl
      | some error' =>
        have hpass : error.pass < error'.pass := by
          rw [hsecond error rfl]
          exact hlater error' rfl
        simp only [Option.none_or, Option.some_or, joinFaults, if_pos hpass]
  | some error =>
    have hpass : ∀ error' ∈ second.or later', ¬ error'.pass < error.pass := by
      intro error' h
      rw [hfirst error rfl]
      rcases Option.or_eq_some_iff.1 h with h | ⟨-, h⟩
      · rw [hsecond error' h]
        exact Nat.lt_irrefl n
      · exact Nat.lt_asymm (hlater' error' h)
    cases hor : second.or later' with
    | none => rfl
    | some error' => simp only [Option.some_or, joinFaults, if_neg (hpass error' hor)]

theorem fault?_append (policy : LabelPolicy) (first second : List String) :
    fault? policy (first ++ second) = joinFaults (fault? policy first) (fault? policy second) := by
  have hlater : ∀ lines, ∀ error ∈ (firstFault? Tag.labels (Labels.fault? policy) lines).or
      (firstFault? Tag.requirement Requirement.fault? lines), 0 < error.pass := by
    intro lines error h
    rcases Option.or_eq_some_iff.1 h with h | ⟨-, h⟩
    · rw [pass_of_firstFault?_labels h]
      exact Nat.one_pos
    · rw [pass_of_firstFault?_requirement h]
      exact Nat.two_pos
  have hlast : ∀ lines, ∀ error ∈ firstFault? Tag.requirement Requirement.fault? lines,
      1 < error.pass := fun lines error h => by
    rw [pass_of_firstFault?_requirement h]
    exact Nat.one_lt_two
  rw [fault?, fault?, fault?,
    joinFaults_or (fun _ => pass_of_firstFault?_kinds) (fun _ => pass_of_firstFault?_kinds)
      (hlater first) (hlater second),
    joinFaults_or (fun _ => pass_of_firstFault?_labels) (fun _ => pass_of_firstFault?_labels)
      (hlast first) (hlast second),
    joinFaults_eq_or (fun _ => pass_of_firstFault?_requirement)
      (fun _ => pass_of_firstFault?_requirement),
    firstFault?_append, firstFault?_append, firstFault?_append]

/-! ## Joining results -/

/-- What two readings come to together. -/
def joinResults :
    Except HeaderError Scope → Except HeaderError Scope → Except HeaderError Scope
  | .ok first, .ok second => .ok (first.merge second)
  | .ok _, .error later => .error later
  | .error error, .ok _ => .error error
  | .error error, .error later => if later.pass < error.pass then .error later else .error error

theorem joinResults_endWith (fault? later? : Option HeaderError) (first second : Scope) :
    joinResults (endWith fault? first) (endWith later? second) =
      endWith (joinFaults fault? later?) (first.merge second) := by
  cases fault? with
  | none => cases later? <;> rfl
  | some error =>
    cases later? with
    | none => rfl
    | some later =>
      simp only [endWith_some, joinResults, joinFaults]
      split <;> rfl

/-- The errors of the three passes over some lines, as far as they have one. -/
def passErrors (settings : Settings) (lines : List String) : List (Option HeaderError) :=
  [(Kinds.family.read lines).error?, ((Labels.family settings.labelPolicy).read lines).error?,
    (Requirement.family.read lines).error?]

theorem passErrors_eq (settings : Settings) (lines : List String) :
    passErrors settings lines = [firstFault? Tag.kinds Kinds.fault? lines,
      firstFault? Tag.labels (Labels.fault? settings.labelPolicy) lines,
      firstFault? Tag.requirement Requirement.fault? lines] := by
  rw [passErrors, Run.error?_of_result (result_read_kinds lines),
    Run.error?_of_result (result_read_labels settings.labelPolicy lines),
    Run.error?_of_result (result_read_requirements lines)]

/-- The number of an error says which pass failed first, and the error is the one of that pass. -/
theorem passErrors_of_fault? {settings : Settings} {lines : List String} {error : HeaderError}
    (h : fault? settings.labelPolicy lines = some error) :
    (passErrors settings lines).findIdx Option.isSome = error.pass ∧
      (passErrors settings lines)[error.pass]? = some (some error) := by
  rw [fault?, Option.or_eq_some_iff, Option.or_eq_some_iff] at h
  rw [passErrors_eq]
  rcases h with h | ⟨hkinds, h | ⟨hlabels, h⟩⟩
  · rw [h, pass_of_firstFault?_kinds h]
    exact ⟨rfl, rfl⟩
  · rw [hkinds, h, pass_of_firstFault?_labels h]
    exact ⟨rfl, rfl⟩
  · rw [hkinds, hlabels, h, pass_of_firstFault?_requirement h]
    exact ⟨rfl, rfl⟩

/-- **What lines come to after other lines is settled by what each come to alone**: scopes merge, an
error beside a scope stays as it is, and of two errors the second counts only if it is from an earlier
pass. So more lines never mend an error and never move it to a later pass. -/
theorem result_ofLines_append (settings : Settings) :
    (∀ first second : List String,
      (ofLines settings (first ++ second)).result =
        joinResults (ofLines settings first).result (ofLines settings second).result) ∧
    (∀ first second merged : Scope,
      IsMerge first second merged ↔ merged = first.merge second) ∧
    (∀ (lines : List String) (error : HeaderError), (ofLines settings lines).result = .error error →
      (passErrors settings lines).findIdx Option.isSome = error.pass ∧
        (passErrors settings lines)[error.pass]? = some (some error)) ∧
    (∀ (first second : List String) (error : HeaderError),
      (ofLines settings first).result = .error error →
        ∃ other, (ofLines settings (first ++ second)).result = .error other ∧
          other.pass ≤ error.pass) := by
  have hjoin : ∀ first second : List String,
      (ofLines settings (first ++ second)).result =
        joinResults (ofLines settings first).result (ofLines settings second).result := by
    intro first second
    rw [result_ofLines, result_ofLines, result_ofLines, joinResults_endWith, fault?_append,
      gather_append]
  refine ⟨hjoin, fun _ _ _ => isMerge_iff, fun lines error h => ?_, fun first second error h => ?_⟩
  · rw [result_ofLines, endWith_eq_error_iff] at h
    exact passErrors_of_fault? h
  · rw [hjoin, h]
    cases (ofLines settings second).result with
    | ok scope => exact ⟨error, rfl, Nat.le_refl _⟩
    | error later =>
      rw [joinResults]
      split
      · next hpass => exact ⟨later, rfl, Nat.le_of_lt hpass⟩
      · exact ⟨error, rfl, Nat.le_refl _⟩

/-- The later error is from an earlier pass, so it counts. -/
theorem result_requirement_fault_then_label_fault :
    (ofLines .standard ["@matchExpression k"]).result = .error (.requirementArity "@matchExpression k" 1) ∧
    (passErrors .standard ["@matchExpression k"]).findIdx Option.isSome = 2 ∧
    (ofLines .standard (["@matchExpression k"] ++ ["@matchlabels team"])).result =
      .error (.malformedLabel "team") ∧
    ∃ other, (ofLines .standard (["@matchExpression k"] ++ ["@matchlabels team"])).result =
      .error other ∧ other.pass ≤ 2 := by
  obtain ⟨hjoin, -, hpass, hmend⟩ := result_ofLines_append .standard
  have hfirst : (ofLines .standard ["@matchExpression k"]).result =
      .error (.requirementArity "@matchExpression k" 1) := rfl
  exact ⟨hfirst, (hpass _ _ hfirst).1, hjoin _ _, hmend _ _ _ hfirst⟩

end Scope

end PolicyHeader
