import PolicyHeader.Proofs.Text.Digits
import PolicyHeader.Proofs.Text.Words
import PolicyHeader.Text.Quoted

/-!
# Texts on one line

A text shows as one line if plain spaces are its only blanks, since every character that breaks a line is
a blank. Quoting makes one line of any text (`oneLine_quote`): blanks other than the plain space are not
printable (`isUnprintable_of_isBlank`), and what is not printable is written as its code point.
-/

namespace PolicyHeader.Text

/-- Characters that can stand on one line: plain spaces are the only blanks among them. -/
def Inline (cs : List Char) : Prop :=
  ∀ c ∈ cs, isBlank c = true → c = ' '

instance (cs : List Char) : Decidable (Inline cs) :=
  List.decidableBAll (fun c => isBlank c = true → c = ' ') cs

/-- A text that shows as one line. -/
structure OneLine (s : String) : Prop where
  inline : Inline s.toList

instance (s : String) : Decidable (OneLine s) :=
  decidable_of_iff (Inline s.toList) ⟨fun h => ⟨h⟩, fun h => h.inline⟩

/-- The characters that break a line. -/
def lineBreaks : List Char :=
  ['\n', '\x0b', '\x0c', '\r', '\u0085', '\u2028', '\u2029']

/-! ## Putting texts together -/

theorem Inline.append {cs ds : List Char} (hcs : Inline cs) (hds : Inline ds) : Inline (cs ++ ds) := by
  intro c hc
  rcases List.mem_append.1 hc with hc | hc
  · exact hcs c hc
  · exact hds c hc

theorem Inline.flatMap {cs : List Char} {f : Char → List Char} (h : ∀ c, Inline (f c)) :
    Inline (cs.flatMap f) := by
  intro d hd
  obtain ⟨c, -, hd⟩ := List.mem_flatMap.1 hd
  exact h c d hd

theorem OneLine.append {s t : String} (hs : OneLine s) (ht : OneLine t) : OneLine (s ++ t) := by
  refine ⟨?_⟩
  rw [String.toList_append]
  exact hs.inline.append ht.inline

theorem Unbroken.oneLine {s : String} (h : Unbroken s) : OneLine s := by
  refine ⟨fun c hc hblank => ?_⟩
  rw [h c hc] at hblank
  cases hblank

theorem OneLine.intercalate {separator : String} (hseparator : OneLine separator)
    {parts : List String} (h : ∀ part ∈ parts, OneLine part) :
    OneLine (separator.intercalate parts) := by
  induction parts with
  | nil => exact unbroken_empty.oneLine
  | cons part rest ih =>
    have hpart := h part List.mem_cons_self
    have hrest := ih fun other hother => h other (List.mem_cons_of_mem _ hother)
    cases rest with
    | nil => rwa [String.intercalate_singleton]
    | cons next rest =>
      rw [String.intercalate_cons_cons]
      exact (hpart.append hseparator).append hrest

theorem OneLine.lineBreak_not_mem {s : String} (h : OneLine s) : ∀ c ∈ lineBreaks, c ∉ s.toList := by
  intro c hc hmem
  have hblank : lineBreaks.all (fun c => isBlank c && c != ' ') = true := by decide
  obtain ⟨hc, hne⟩ := Bool.and_eq_true_iff.1 (List.all_eq_true.1 hblank c hc)
  simp [h.inline c hmem hc] at hne

/-! ## Numbers -/

theorem inline_toDigits (base n : Nat) : Inline (Nat.toDigits base n) := by
  intro c hc hblank
  have hall : digitChars.all (fun c => !isBlank c) = true := by decide
  have hdigit := List.all_eq_true.1 hall c (mem_digitChars_of_mem_toDigits hc)
  rw [hblank] at hdigit
  cases hdigit

theorem oneLine_toString (n : Nat) : OneLine (toString n) := by
  refine ⟨?_⟩
  show Inline n.repr.toList
  rw [Nat.repr_eq_ofList_toDigits, String.toList_ofList]
  exact inline_toDigits 10 n

/-! ## Quoted texts -/

/-- Whether each range lies in a range of a cover. -/
def Ranges.covers (cover ranges : Ranges) : Bool :=
  ranges.all fun range => cover.any fun wide => wide.1 ≤ range.1 && range.2 ≤ wide.2

theorem Ranges.contains_of_covers {cover ranges : Ranges} {c : Char} (h : cover.covers ranges = true)
    (hc : ranges.contains c = true) : cover.contains c = true := by
  obtain ⟨range, hrange, hfirst, hlast⟩ := (contains_iff ranges c).1 hc
  obtain ⟨wide, hwide, hcovers⟩ := List.any_eq_true.1 (List.all_eq_true.1 h range hrange)
  simp only [Bool.and_eq_true, decide_eq_true_eq] at hcovers
  exact (contains_iff cover c).2
    ⟨wide, hwide, Nat.le_trans hcovers.1 hfirst, Nat.le_trans hlast hcovers.2⟩

theorem eq_space_of_toNat {c : Char} (h : c.toNat = 0x20) : c = ' ' :=
  Char.toNat_inj.1 h

/-- Among the blanks only the plain space is printable. -/
theorem isUnprintable_of_isBlank {c : Char} (h : isBlank c = true) (hne : c ≠ ' ') :
    isUnprintable c = true := by
  have hcovers : Ranges.covers ((0x20, 0x20) :: unprintableRanges) blankRanges = true := by
    decide +kernel
  have hc := Ranges.contains_of_covers hcovers h
  rw [Ranges.contains, List.any_cons, Bool.or_eq_true] at hc
  rcases hc with hspace | hc
  · simp only [Bool.and_eq_true, decide_eq_true_eq] at hspace
    exact absurd (eq_space_of_toNat (Nat.le_antisymm hspace.2 hspace.1)) hne
  · exact hc

/-- Among the blanks only the plain space is one of the common printable characters. -/
theorem eq_space_of_isBlank {c : Char} (h : isBlank c = true) (hfirst : ' ' ≤ c) (hlast : c ≤ '~') :
    c = ' ' := by
  have hcovers : Ranges.covers [(0, 0x20), (0x85, 0x3000)] blankRanges = true := by decide
  obtain ⟨range, hrange, hlow, hhigh⟩ :=
    (Ranges.contains_iff _ c).1 (Ranges.contains_of_covers hcovers h)
  have hspace : 0x20 ≤ c.toNat := hfirst
  have htilde : c.toNat ≤ 0x7e := hlast
  simp only [List.mem_cons, List.not_mem_nil, or_false] at hrange
  refine eq_space_of_toNat ?_
  rcases hrange with rfl | rfl <;> omega

theorem inline_escapeCode (c : Char) : Inline (escapeCode c) := by
  have hopen : Inline ['\\', 'u', '\x7b'] := by decide
  have hclose : Inline ['\x7d'] := by decide
  exact hopen.append ((inline_toDigits 16 c.toNat).append hclose)

theorem inline_singleton {c : Char} (h : isBlank c = true → c = ' ') : Inline [c] := by
  intro d hd
  rwa [List.mem_singleton.1 hd]

theorem inline_escapeChar (c : Char) : Inline (escapeChar c) := by
  rw [escapeChar]
  split
  · decide
  split
  · decide
  split
  · decide
  split
  · decide
  split
  · decide
  split
  · decide
  split
  · next hprint => exact inline_singleton fun hblank => eq_space_of_isBlank hblank hprint.1 hprint.2
  split
  · exact inline_escapeCode c
  · next hplain =>
    -- a blank that is written as it is would be printable
    refine inline_singleton fun hblank => Decidable.byContradiction fun hne => hplain ?_
    rw [isUnprintable_of_isBlank hblank hne, Bool.or_true]

/-- A quoted text shows as one line, whatever it quotes. -/
theorem oneLine_quote (s : String) : OneLine (quote s) := by
  have hmark : Inline ['\x22'] := by decide
  refine ⟨?_⟩
  rw [quote, String.toList_ofList]
  exact hmark.append ((Inline.flatMap inline_escapeChar).append hmark)

theorem oneLine_quoteList (texts : List String) : OneLine (quoteList texts) := by
  have hopen : OneLine "[" := by decide
  have hclose : OneLine "]" := by decide
  have hcomma : OneLine ", " := by decide
  refine (hopen.append (hcomma.intercalate fun part hpart => ?_)).append hclose
  obtain ⟨text, -, rfl⟩ := List.mem_map.1 hpart
  exact oneLine_quote text

end PolicyHeader.Text
