import PolicyHeader.Yaml.Event.Grammar

/-!
# Steps make the workload smaller

The workload of some goals and tokens falls with every step, so the tokens run out or the goals are
met.
-/

namespace PolicyHeader.Yaml

/-- Whether what an outcome leaves to be read is below a bound. -/
def Outcome.Below (outcome : Outcome) (bound : Nat) : Prop :=
  ∀ result, outcome = .step result → workload result.goals result.rest < bound

/-- A step is below a bound if its goals count what is said and leave room for the tokens. -/
theorem below_step {events : List (Event (List Char))} {goals : List Goal} {rest : List Token}
    (weight : Nat) {bound : Nat} (hgoals : goalWeight goals = weight)
    (h : weight + 8 * rest.length < bound) : (Outcome.step ⟨events, goals, rest⟩).Below bound := by
  intro result heq
  cases heq
  rwa [workload, hgoals]

/-- A step that takes no token leaves goals that count less. -/
theorem below_same_tokens {events : List (Event (List Char))} {goals : List Goal}
    {tokens : List Token} {weight : Nat} (h : goalWeight goals < weight) :
    (Outcome.step ⟨events, goals, tokens⟩).Below (8 * tokens.length + weight) :=
  below_step _ rfl (by omega)

theorem below_short {bound : Nat} : Outcome.short.Below bound := by
  intro result h
  contradiction

theorem below_fault {fault : Fault} {bound : Nat} : (Outcome.fault fault).Below bound := by
  intro result h
  contradiction

theorem goalWeight_append (first second : List Goal) :
    goalWeight (first ++ second) = goalWeight first + goalWeight second := by
  induction first with
  | nil => simp [goalWeight]
  | cons goal goals ih => simp only [List.cons_append, goalWeight, ih, Nat.add_assoc]

theorem length_properties_rest (tokens : List Token) :
    (Properties.read tokens).rest.length ≤ tokens.length := by
  unfold Properties.read
  split <;> simp only [List.length_cons] <;> omega

theorem bareStep_below (properties : Properties) :
    (bareStep properties).Below (8 * properties.rest.length + 2) := by
  unfold bareStep
  split
  · exact below_step 0 rfl (by omega)
  · exact below_fault

/-- A step that takes the token after the properties of a node. -/
theorem below_step_content {properties : Properties} {token : Token} {rest : List Token}
    {events : List (Event (List Char))} {goals : List Goal} (h : properties.rest = token :: rest)
    (hgoals : goalWeight goals < 10) :
    (Outcome.step ⟨events, goals, rest⟩).Below (8 * properties.rest.length + 2) :=
  below_step _ rfl (by simp only [h, List.length_cons]; omega)

theorem contentStep_below (block bareSequence : Bool) (properties : Properties) :
    (contentStep block bareSequence properties).Below (8 * properties.rest.length + 2) := by
  unfold contentStep
  split
  · exact below_short
  · next h => exact below_step_content h (by decide)
  · next h => exact below_step_content h (by decide)
  · next h => exact below_step_content h (by decide)
  · split
    · exact below_step 1 rfl (by omega)
    · exact bareStep_below properties
  · next h =>
    split
    · exact below_step_content h (by decide)
    · exact bareStep_below properties
  · next h =>
    split
    · exact below_step_content h (by decide)
    · exact bareStep_below properties
  · exact bareStep_below properties

theorem nodeStep_below (handles : List (List Char)) (block bareSequence : Bool)
    (tokens : List Token) :
    (nodeStep handles block bareSequence tokens).Below (8 * tokens.length + 2) := by
  unfold nodeStep
  split
  · exact below_step 0 rfl (by simp only [List.length_cons]; omega)
  · dsimp only
    split
    · exact below_short
    · split
      · exact below_fault
      · intro result h
        have hlt := contentStep_below block bareSequence (.read tokens) result h
        have hle := length_properties_rest tokens
        omega

theorem nodeThen_below {block bareSequence : Bool} {isOmitted : Token → Bool} {goal : Goal}
    {rest : List Token} (weight : Nat) {bound : Nat} (hgoal : goal.weight = weight)
    (h : weight + 2 + 8 * rest.length < bound) :
    (nodeThen block bareSequence isOmitted goal rest).Below bound := by
  unfold nodeThen
  split
  · exact below_short
  · split
    · exact below_step weight hgoal (by omega)
    · exact below_step (2 + weight) (congrArg (2 + ·) hgoal) (by omega)

theorem bareEntriesStep_below (token : Token) (rest : List Token) :
    (bareEntriesStep token rest).Below (8 * rest.length + 9) := by
  unfold bareEntriesStep
  split
  · exact nodeThen_below 1 rfl (by omega)
  · exact below_step 0 rfl (by simp only [List.length_cons]; omega)

theorem blockEntriesStep_below (token : Token) (rest : List Token) :
    (blockEntriesStep token rest).Below (8 * rest.length + 9) := by
  unfold blockEntriesStep
  split
  · exact nodeThen_below 1 rfl (by omega)
  · exact below_step 0 rfl (by omega)
  · exact below_fault

theorem blockKeysStep_below (token : Token) (rest : List Token) :
    (blockKeysStep token rest).Below (8 * rest.length + 9) := by
  unfold blockKeysStep
  split
  · exact nodeThen_below 3 rfl (by omega)
  · exact below_step 0 rfl (by omega)
  · exact below_fault

theorem blockValueStep_below (token : Token) (rest : List Token) :
    (blockValueStep token rest).Below (8 * rest.length + 11) := by
  unfold blockValueStep
  split
  · exact nodeThen_below 1 rfl (by omega)
  · exact below_step 1 rfl (by simp only [List.length_cons]; omega)

theorem flowEntryStep_below (token : Token) (rest : List Token) :
    (flowEntryStep token rest).Below (8 * rest.length + 12) := by
  unfold flowEntryStep
  split
  · exact below_step 7 rfl (by omega)
  · exact below_step 0 rfl (by omega)
  · exact below_step 3 rfl (by simp only [List.length_cons]; omega)

theorem flowKeyStep_below (token : Token) (rest : List Token) :
    (flowKeyStep token rest).Below (8 * rest.length + 14) := by
  unfold flowKeyStep
  split
  · exact below_step 0 rfl (by omega)
  · exact nodeThen_below 3 rfl (by omega)
  · exact below_step 5 rfl (by simp only [List.length_cons]; omega)

/-- An item after a comma may leave more than the comma alone pays for by its goal. -/
theorem separatorStep_below {item : Token → List Token → Outcome} {last : Token} (token : Token)
    (rest : List Token) (hlast : (item last rest).Below (8 * rest.length + 9))
    (hitem : ∀ next rest, (item next rest).Below (8 * rest.length + 17)) :
    (separatorStep item last token rest).Below (8 * rest.length + 9) := by
  unfold separatorStep
  split
  · next h => exact h ▸ hlast
  · split
    · split
      · exact below_short
      · next next rest =>
        intro result h
        have hlt := hitem next rest result h
        simp only [List.length_cons]
        omega
    · exact below_fault

theorem flowEntries_below (token : Token) (rest : List Token) :
    (separatorStep flowEntryStep .flowSequenceEnd token rest).Below (8 * rest.length + 9) := by
  apply separatorStep_below
  · exact below_step 0 rfl (by omega)
  · intro next rest result h
    have hlt := flowEntryStep_below next rest result h
    omega

theorem flowKeys_below (token : Token) (rest : List Token) :
    (separatorStep flowKeyStep .flowMappingEnd token rest).Below (8 * rest.length + 9) := by
  apply separatorStep_below
  · exact below_step 0 rfl (by omega)
  · intro next rest result h
    have hlt := flowKeyStep_below next rest result h
    omega

theorem pairKeyStep_below (token : Token) (rest : List Token) :
    (pairKeyStep token rest).Below (8 * rest.length + 14) := by
  unfold pairKeyStep
  split
  · exact below_step 3 rfl (by omega)
  · exact below_step 5 rfl (by simp only [List.length_cons]; omega)

theorem pairValueStep_below (token : Token) (rest : List Token) :
    (pairValueStep token rest).Below (8 * rest.length + 11) := by
  unfold pairValueStep
  split
  · exact nodeThen_below 2 rfl (by omega)
  · exact below_step 2 rfl (by simp only [List.length_cons]; omega)

theorem flowValueStep_below (token : Token) (rest : List Token) :
    (flowValueStep token rest).Below (8 * rest.length + 11) := by
  unfold flowValueStep
  split
  · exact nodeThen_below 1 rfl (by omega)
  · exact below_step 1 rfl (by simp only [List.length_cons]; omega)

/-- Every step makes the workload smaller. -/
theorem step_below (handles : List (List Char)) (goal : Goal) (tokens : List Token) :
    (goal.step handles tokens).Below (8 * tokens.length + goal.weight) := by
  cases tokens with
  | nil => exact below_short
  | cons token rest =>
    match goal with
    | .node block bareSequence => exact nodeStep_below handles block bareSequence (token :: rest)
    | .bareEntries => exact bareEntriesStep_below token rest
    | .blockEntries => exact blockEntriesStep_below token rest
    | .blockKeys => exact blockKeysStep_below token rest
    | .blockValue => exact blockValueStep_below token rest
    | .flowEntries true => exact flowEntryStep_below token rest
    | .flowEntries false => exact flowEntries_below token rest
    | .pairKey => exact pairKeyStep_below token rest
    | .pairValue => exact pairValueStep_below token rest
    | .pairEnd => exact below_same_tokens (by decide)
    | .flowKeys true => exact flowKeyStep_below token rest
    | .flowKeys false => exact flowKeys_below token rest
    | .flowValue => exact flowValueStep_below token rest
    | .flowNoValue => exact below_same_tokens (by decide)

end PolicyHeader.Yaml
