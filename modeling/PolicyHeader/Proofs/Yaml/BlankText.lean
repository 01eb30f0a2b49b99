import PolicyHeader.Text.Blank
import PolicyHeader.Yaml.Document

/-!
# Documents of blank texts

Not every blank is a space to the lexer, but no blank is a mark. So the tokens of a blank text are plain
scalars and the end of the stream (`Lexer.IsBlank.next`, `Token.isPlain_of_mem_ofText`), and its document
is empty or a scalar.
-/

namespace PolicyHeader.Yaml

open Text (isBlank)

theorem bind_eq_ok {ε α β : Type} {x : Except ε α} {f : α → Except ε β} {b : β} :
    (x >>= f) = .ok b ↔ ∃ a, x = .ok a ∧ f a = .ok b := by
  cases x <;> simp [bind, Except.bind]

/-- Whether a token is one of those that blanks alone give. -/
def Token.IsPlain : Token → Prop
  | .scalar _ plain => plain = true
  | .streamEnd => True
  | _ => False

/-- Spots without any mark. -/
def AreBlank (input : List Spot) : Prop :=
  ∀ spot ∈ input, isBlank spot.char = true ∨ spot.char = endMark

theorem AreBlank.of_subset {input rest : List Spot} (h : AreBlank input) (hsub : rest ⊆ input) :
    AreBlank rest :=
  fun spot hspot => h spot (hsub hspot)

theorem AreBlank.charAt {input : List Spot} (h : AreBlank input) (distance : Nat) :
    isBlank (charAt distance input) = true ∨ charAt distance input = endMark := by
  unfold Yaml.charAt
  cases hspot : input[distance]? with
  | none => exact .inr rfl
  | some spot => exact h spot (List.mem_of_getElem? hspot)

/-! ## Texts and their spots -/

theorem areBlank_spotsFrom {text : List Char} (h : ∀ c ∈ text, isBlank c = true)
    (index line column : Nat) : AreBlank (spotsFrom index line column text) := by
  induction text generalizing index line column with
  | nil =>
    intro spot hspot
    rw [List.mem_singleton.1 hspot]
    exact .inr rfl
  | cons c rest ih =>
    obtain ⟨hc, hrest⟩ := List.forall_mem_cons.1 h
    intro spot hspot
    rw [spotsFrom, List.mem_cons] at hspot
    rcases hspot with rfl | hspot
    · exact .inl hc
    · split at hspot
      · exact ih hrest _ _ _ spot hspot
      · exact ih hrest _ _ _ spot hspot

theorem isBlank_of_mem_unifyBreaks {text : List Char} (h : ∀ c ∈ text, isBlank c = true) :
    ∀ c ∈ unifyBreaks text, isBlank c = true := by
  fun_induction unifyBreaks text with
  | case1 => exact h
  | case2 rest ih =>
    intro c hc
    rcases List.mem_cons.1 hc with rfl | hc
    · decide
    · apply ih _ c hc
      intro d hd
      exact h d (List.mem_cons_of_mem _ (List.mem_cons_of_mem _ hd))
  | case3 first rest _ ih =>
    obtain ⟨hfirst, hrest⟩ := List.forall_mem_cons.1 h
    intro c hc
    rcases List.mem_cons.1 hc with rfl | hc
    · split
      · decide
      · exact hfirst
    · exact ih hrest c hc

/-! ## One step of the lexer -/

namespace Lexer

/-- A lexer that has met no mark. -/
structure IsBlank (lexer : Lexer) : Prop where
  input : AreBlank lexer.input
  margins : lexer.margins = []
  settled : ∀ token ∈ lexer.settled, token.IsPlain
  held : ∀ token ∈ lexer.held, token.IsPlain

variable {lexer lexer' : Lexer}

theorem skipGapFrom_subset (flow keyAllowed inComment : Bool) (input : List Spot) :
    (skipGapFrom flow keyAllowed inComment input).2 ⊆ input := by
  fun_induction skipGapFrom flow keyAllowed inComment input
  case case1 | case3 | case7 => exact List.Subset.refl _
  case case2 ih | case4 ih | case5 ih | case6 ih => exact List.subset_cons_of_subset _ ih

theorem IsBlank.skipGap (h : lexer.IsBlank) : lexer.skipGap.IsBlank where
  input := h.input.of_subset (skipGapFrom_subset _ _ _ _)
  margins := h.margins
  settled := h.settled
  held := h.held

theorem IsBlank.closeBlocks (h : lexer.IsBlank) (margin : Nat) : (lexer.closeBlocks margin).IsBlank := by
  unfold Lexer.closeBlocks
  split
  · exact h
  · exact ⟨h.input, by simp [h.margins], h.settled, by simpa [h.margins] using h.held⟩

theorem IsBlank.push (h : lexer.IsBlank) {token : Token} (htoken : token.IsPlain) :
    (lexer.push token).IsBlank where
  input := h.input
  margins := h.margins
  settled := h.settled
  held := by
    intro other hother
    rcases List.mem_append.1 hother with hmem | hmem
    · exact h.held other hmem
    · exact List.mem_singleton.1 hmem ▸ htoken

theorem IsBlank.settle (h : lexer.IsBlank) : lexer.settle.IsBlank where
  input := h.input
  margins := h.margins
  settled := by
    intro token htoken
    rcases List.mem_append.1 htoken with hmem | hmem
    · exact h.held token (List.mem_of_mem_take (List.mem_reverse.1 hmem))
    · exact h.settled token hmem
  held := fun token htoken => h.held token (List.mem_of_mem_drop htoken)

/-- What is known of the key candidates makes no difference. -/
theorem IsBlank.withCandidates (h : lexer.IsBlank) (candidate : Option KeyCandidate)
    (outer : List (Option KeyCandidate)) :
    { lexer with candidate := candidate, outer := outer : Lexer }.IsBlank :=
  ⟨h.input, h.margins, h.settled, h.held⟩

theorem IsBlank.dropStale (h : lexer.IsBlank) (hdrop : lexer.dropStale = .ok lexer') :
    lexer'.IsBlank := by
  unfold Lexer.dropStale at hdrop
  dsimp only at hdrop
  split at hdrop
  · cases hdrop
  · cases hdrop
    exact h.withCandidates _ _

theorem IsBlank.dropCandidate (h : lexer.IsBlank) (hdrop : lexer.dropCandidate = .ok lexer') :
    lexer'.IsBlank := by
  unfold Lexer.dropCandidate at hdrop
  split at hdrop
  · cases hdrop
  · cases hdrop
    exact h.withCandidates _ _

theorem IsBlank.saveCandidate (h : lexer.IsBlank) (hsave : lexer.saveCandidate = .ok lexer') :
    lexer'.IsBlank := by
  unfold Lexer.saveCandidate at hsave
  split at hsave
  · obtain ⟨dropped, hdrop, hsave⟩ := bind_eq_ok.1 hsave
    cases hsave
    exact (h.dropCandidate hdrop).withCandidates _ _
  · cases hsave
    exact h

theorem char_spot (lexer : Lexer) : lexer.spot.char = lexer.char := by
  unfold Lexer.spot Lexer.char Yaml.charAt
  cases lexer.input <;> rfl

theorem IsBlank.char (h : lexer.IsBlank) : isBlank lexer.char = true ∨ lexer.char = endMark :=
  h.input.charAt 0

theorem IsBlank.takeEnd (h : lexer.IsBlank) (htake : lexer.takeEnd = .ok lexer') :
    lexer'.IsBlank := by
  unfold Lexer.takeEnd at htake
  obtain ⟨dropped, hdrop, htake⟩ := bind_eq_ok.1 htake
  cases htake
  have hclosed : dropped.IsBlank := by
    apply IsBlank.dropCandidate _ hdrop
    apply IsBlank.closeBlocks
    refine ⟨?_, h.margins, h.settled, h.held⟩
    intro spot hspot
    rw [List.mem_singleton.1 hspot]
    dsimp only
    rw [char_spot]
    exact h.char
  have hpushed := @IsBlank.push _ hclosed .streamEnd trivial
  exact ⟨hpushed.input, hpushed.margins, hpushed.settled, hpushed.held⟩

theorem rest_subset_of_readPlainFrom {flow : Bool} {margin : Nat} {gap : Gap} {reversed : List Char}
    {input : List Spot} {plain : PlainEnd}
    (h : readPlainFrom flow margin gap reversed input = .ok plain) : plain.rest ⊆ input := by
  fun_induction readPlainFrom flow margin gap reversed input
  case case1 | case5 | case7 =>
    cases h
    exact List.Subset.refl _
  case case3 | case6 => cases h
  case case2 ih | case4 ih | case8 ih => exact List.subset_cons_of_subset _ (ih h)

theorem IsBlank.takePlain (h : lexer.IsBlank) (htake : lexer.takePlain = .ok lexer') :
    lexer'.IsBlank := by
  unfold Lexer.takePlain at htake
  obtain ⟨saved, hsave, htake⟩ := bind_eq_ok.1 htake
  obtain ⟨plain, hread, htake⟩ := bind_eq_ok.1 htake
  cases htake
  have hsaved := h.saveCandidate hsave
  have hpushed := @IsBlank.push _ hsaved (.scalar plain.text true) rfl
  refine ⟨?_, hpushed.margins, hpushed.settled, hpushed.held⟩
  apply hsaved.input.of_subset
  exact List.Subset.trans (rest_subset_of_readPlainFrom hread) (List.drop_subset _ _)

/-- A character that is no blank is not at the front. -/
theorem IsBlank.char_ne (h : lexer.IsBlank) (hend : lexer.char ≠ endMark) {c : Char}
    (hc : isBlank c = false) : lexer.char ≠ c := by
  rintro rfl
  rcases h.char with hblank | hblank
  · rw [hc] at hblank
    cases hblank
  · exact hend hblank

theorem IsBlank.not_atDocumentMark (h : lexer.IsBlank) (hend : lexer.char ≠ endMark) :
    atDocumentMark lexer.input = false := by
  have hdash := h.char_ne hend (c := '-') (by decide)
  have hdot := h.char_ne hend (c := '.') (by decide)
  unfold Lexer.char Yaml.charAt at hdash hdot
  unfold atDocumentMark
  split
  · next hinput =>
    rw [hinput] at hdash hdot
    simp_all
  · rfl

theorem IsBlank.takeToken (h : lexer.IsBlank) (htake : lexer.takeToken = .ok lexer') :
    lexer'.IsBlank := by
  by_cases hend : lexer.char = endMark
  · unfold Lexer.takeToken at htake
    rw [if_pos hend] at htake
    exact h.takeEnd htake
  · -- without a mark at the front there is nothing to take but a plain scalar
    have hne : ∀ c, isBlank c = false → lexer.char ≠ c := fun c => h.char_ne hend
    have hmark := h.not_atDocumentMark hend
    have hplain : lexer.takeToken =
        if lexer.startsPlain then lexer.takePlain else .error .strayCharacter := by
      simp (disch := decide) [Lexer.takeToken, hend, hmark, hne, isMark]
    rw [hplain] at htake
    split at htake
    · exact h.takePlain htake
    · cases htake

theorem IsBlank.next (h : lexer.IsBlank) (hnext : lexer.next = .ok lexer') : lexer'.IsBlank := by
  unfold Lexer.next at hnext
  obtain ⟨fresh, hfresh, hnext⟩ := bind_eq_ok.1 hnext
  obtain ⟨taken, htaken, hnext⟩ := bind_eq_ok.1 hnext
  obtain ⟨kept, hkept, hnext⟩ := bind_eq_ok.1 hnext
  cases hnext
  have hclosed := (h.skipGap.dropStale hfresh).closeBlocks (fresh.spot.column + 1)
  exact ((hclosed.takeToken htaken).dropStale hkept).settle

theorem isPlain_of_mem_run (steps : Nat) (h : lexer.IsBlank) :
    ∀ token ∈ (lexer.run steps).1, token.IsPlain := by
  induction steps generalizing lexer with
  | zero =>
    intro token htoken
    exact h.settled token (List.mem_reverse.1 htoken)
  | succ steps ih =>
    intro token htoken
    unfold run at htoken
    split at htoken
    · exact h.settled token (List.mem_reverse.1 htoken)
    · split at htoken
      · next hnext => exact ih (h.next hnext) token htoken
      · exact h.settled token (List.mem_reverse.1 htoken)

theorem isBlank_start {input : List Spot} (h : AreBlank input) : (start input).IsBlank :=
  ⟨h, rfl, fun _ htoken => absurd htoken List.not_mem_nil,
    fun _ htoken => absurd htoken List.not_mem_nil⟩

end Lexer

/-! ## The document -/

theorem Token.isPlain_of_mem_ofText {text : List Char} (h : Text.isAllBlank text = true) :
    ∀ token ∈ (Token.ofText text).1, token.IsPlain := by
  unfold Token.ofText
  split
  · apply Lexer.isPlain_of_mem_run
    apply Lexer.isBlank_start
    apply areBlank_spotsFrom
    exact isBlank_of_mem_unifyBreaks (List.all_eq_true.1 h)
  · intro token htoken
    cases htoken

theorem events_parseGoals_cons {handles : List (List Char)} {goal : Goal} {goals : List Goal}
    {tokens : List Token} {result : Step} (h : goal.step handles tokens = .step result) :
    (parseGoals handles (goal :: goals) tokens).events =
      result.events ++ (parseGoals handles (result.goals ++ goals) result.rest).events := by
  rw [parseGoals]
  split
  · next hstep => cases h.symm.trans hstep
  · next hstep => cases h.symm.trans hstep
  · next hstep =>
    cases h.symm.trans hstep
    rfl

theorem events_parseFirst {tokens : List Token} (h : ∀ token ∈ tokens, token.IsPlain) :
    (parseFirst tokens).events = [] ∨ ∃ text, (parseFirst tokens).events = [.scalar none text true] := by
  cases tokens with
  | nil => exact .inl rfl
  | cons token rest =>
    have htoken := h token List.mem_cons_self
    cases token with
    | streamEnd => exact .inl rfl
    | scalar text plain =>
      obtain rfl : plain = true := htoken
      refine .inr ⟨text, ?_⟩
      have hstep : (Goal.node true false).step standardHandles (.scalar text true :: rest) =
          .step ⟨[.scalar none text true], [], rest⟩ := rfl
      unfold parseFirst
      dsimp only
      rw [events_parseGoals_cons hstep, List.append_nil, parseGoals]
      rfl
    | _ => cases htoken

theorem Document.events_ofTokens (tokens : List Token) (fault : Option Fault) :
    (ofTokens tokens fault).events = (numberEvents .empty (parseFirst tokens).events).1 := by
  unfold ofTokens
  dsimp only
  split <;> rfl

/-- A blank text holds no mapping. -/
theorem Document.events_ofText_of_isAllBlank {text : String}
    (h : Text.isAllBlank text.toList = true) :
    (ofText text).events = [] ∨ ∃ content, (ofText text).events = [.scalar none content true] := by
  unfold ofText
  rw [events_ofTokens]
  rcases events_parseFirst (Token.isPlain_of_mem_ofText h) with hnone | ⟨content, hscalar⟩
  · rw [hnone]
    exact .inl rfl
  · rw [hscalar]
    exact .inr ⟨content, rfl⟩

end PolicyHeader.Yaml
