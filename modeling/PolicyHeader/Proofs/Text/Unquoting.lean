import PolicyHeader.Proofs.Text.Cut
import PolicyHeader.Proofs.Text.Digits
import PolicyHeader.Text.Quoted

/-!
# Reading quoted texts

Each escaped character is told off the front of a quoted text, whatever follows it
(`unescape?_escapeChar`): what opens with a backslash goes on by a mark of its own or by a code point in
braces, and every other character stands for itself. So a quoted text is the quotation of one text only
(`quote_inj`).
-/

namespace PolicyHeader.Text

/-- What the marks after a backslash stand for. -/
def marked : List (Char × Char) :=
  [('0', '\x00'), ('t', '\t'), ('n', '\n'), ('r', '\r'), ('\\', '\\'), ('\x22', '\x22')]

/-- The first character that an escaped text stands for, and the text after it. -/
def unescape? : List Char → Option (Char × List Char)
  | [] => none
  | '\\' :: 'u' :: '\x7b' :: rest =>
    (cut? '\x7d' rest).map fun parts => (Char.ofNat (hexValue parts.1), parts.2)
  | '\\' :: mark :: rest => (marked.lookup mark).map fun c => (c, rest)
  | c :: rest => some (c, rest)

theorem unescape?_cons_of_ne {c : Char} (hc : c ≠ '\\') (rest : List Char) :
    unescape? (c :: rest) = some (c, rest) := by
  rw [unescape?]
  · rintro _ rfl
    exact absurd rfl hc
  · rintro _ _ rfl
    exact absurd rfl hc

/-- A code point in braces is told by the brace that closes it, which is no digit. -/
theorem unescape?_escapeCode (c : Char) (rest : List Char) :
    unescape? (escapeCode c ++ rest) = some (c, rest) := by
  have hbrace : '\x7d' ∉ Nat.toDigits 16 c.toNat := fun h =>
    absurd (mem_digitChars_of_mem_toDigits h) (by decide)
  have hcut : cut? '\x7d' (Nat.toDigits 16 c.toNat ++ '\x7d' :: rest) =
      some (Nat.toDigits 16 c.toNat, rest) := cut?_eq_some_iff.2 ⟨hbrace, rfl⟩
  have htext : escapeCode c ++ rest =
      '\\' :: 'u' :: '\x7b' :: (Nat.toDigits 16 c.toNat ++ '\x7d' :: rest) := by
    simp [escapeCode]
  rw [htext, unescape?, hcut, Option.map_some, hexValue_toDigits, Char.ofNat_toNat]

theorem unescape?_escapeChar (c : Char) (rest : List Char) :
    unescape? (escapeChar c ++ rest) = some (c, rest) := by
  rw [escapeChar]
  split
  · next h => subst h; rfl
  split
  · next h => subst h; rfl
  split
  · next h => subst h; rfl
  split
  · next h => subst h; rfl
  split
  · next h => subst h; rfl
  next hbackslash =>
  split
  · next h => subst h; rfl
  split
  · exact unescape?_cons_of_ne hbackslash rest
  split
  · exact unescape?_escapeCode c rest
  · exact unescape?_cons_of_ne hbackslash rest

theorem flatMap_escapeChar_inj {cs ds : List Char} :
    cs.flatMap escapeChar = ds.flatMap escapeChar ↔ cs = ds := by
  refine ⟨fun h => ?_, congrArg _⟩
  -- both texts give up their first characters together
  induction cs generalizing ds with
  | nil =>
    cases ds with
    | nil => rfl
    | cons d ds =>
      have hread := unescape?_escapeChar d (ds.flatMap escapeChar)
      rw [← List.flatMap_cons, ← h] at hread
      cases hread
  | cons c cs ih =>
    have hread := unescape?_escapeChar c (cs.flatMap escapeChar)
    rw [← List.flatMap_cons, h] at hread
    cases ds with
    | nil => cases hread
    | cons d ds =>
      rw [List.flatMap_cons, unescape?_escapeChar, Option.some.injEq, Prod.mk.injEq] at hread
      rw [hread.1, ih hread.2.symm]

/-- A quoted text tells the text that it quotes. -/
theorem quote_inj {s t : String} : quote s = quote t ↔ s = t := by
  refine ⟨fun h => ?_, congrArg quote⟩
  rw [quote, quote, String.ofList_inj, List.cons_append, List.cons_append, List.cons.injEq,
    List.append_cancel_right_eq, flatMap_escapeChar_inj] at h
  exact String.toList_inj.1 h.2

end PolicyHeader.Text
