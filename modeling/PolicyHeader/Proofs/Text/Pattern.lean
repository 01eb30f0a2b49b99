import PolicyHeader.Text.Pieces

/-!
# Patterns

A pattern is a sequence of parts that are taken off the start of a text one after another. A repetition takes
as many characters as it can, and is ready to give them back one by one where the parts after it do not
match, so a pattern can match in several ways, and the first of them counts (`lastTaken?`). Where the parts
after a repetition never match from a character that it takes, there is nothing to give back
(`flatMap_takeMany`).
-/

namespace PolicyHeader.Text

/-- A part of a pattern. -/
inductive Part
  /-- These characters. -/
  | exactly (text : List Char)
  /-- Any number of characters of a class. -/
  | many (p : Char → Bool)
  /-- One character of a class, or more. -/
  | many1 (p : Char → Bool)

variable {p : Char → Bool}

/-- What can be taken off a text by a repetition, with what is left of it: the longest first. -/
def takeMany (p : Char → Bool) : List Char → List (List Char × List Char)
  | [] => [([], [])]
  | c :: cs =>
    if p c then (takeMany p cs).map (fun taken => (c :: taken.1, taken.2)) ++ [([], c :: cs)]
    else [([], c :: cs)]

/-- What can be taken off a text by a part, with what is left of it, in the order of preference. -/
def Part.takes : Part → List Char → List (List Char × List Char)
  | exactly text, cs => (text.isPrefixOf? cs).toList.map (text, ·)
  | many p, cs => takeMany p cs
  | many1 _, [] => []
  | many1 p, c :: cs =>
    if p c then (takeMany p cs).map fun taken => (c :: taken.1, taken.2) else []

/-- What the parts of a pattern take, for each way in which it matches at the start of a text. -/
def readings : List Part → List Char → List (List (List Char))
  | [], _ => [[]]
  | part :: parts, cs => (part.takes cs).flatMap fun taken =>
      (readings parts taken.2).map (taken.1 :: ·)

/-- What the last part of a pattern takes, if the pattern matches at the start of a text. -/
def lastTaken? (pattern : List Part) (cs : List Char) : Option (List Char) :=
  (readings pattern cs).head?.bind List.getLast?

/-! ## Repetitions -/

theorem head?_takeMany (cs : List Char) :
    (takeMany p cs).head? = some (cs.takeWhile p, cs.dropWhile p) := by
  induction cs with
  | nil => rfl
  | cons c rest ih => by_cases hc : p c = true <;> simp [takeMany, hc, ih]

/-- Nothing is given back by a repetition if nothing can be done with a rest that opens with a character of
its class. -/
theorem flatMap_takeMany {β : Type} {f : List Char × List Char → List β}
    (hf : ∀ taken c rest, p c = true → f (taken, c :: rest) = []) (cs : List Char) :
    (takeMany p cs).flatMap f = f (cs.takeWhile p, cs.dropWhile p) := by
  -- `f` also stands for what is done after the characters that are taken already
  induction cs generalizing f with
  | nil => simp [takeMany]
  | cons c rest ih =>
    by_cases hc : p c = true
    · have hrest := ih (f := fun taken => f (c :: taken.1, taken.2)) fun taken => hf (c :: taken)
      simpa [takeMany, hc, hf, List.flatMap_map] using hrest
    · simp [takeMany, hc]

theorem flatMap_takes_many1 {β : Type} {f : List Char × List Char → List β}
    (hf : ∀ taken c rest, p c = true → f (taken, c :: rest) = []) (cs : List Char) :
    ((Part.many1 p).takes cs).flatMap f =
      if (cs.takeWhile p).isEmpty then [] else f (cs.takeWhile p, cs.dropWhile p) := by
  cases cs with
  | nil => rfl
  | cons c rest =>
    by_cases hc : p c = true
    · have hrest := flatMap_takeMany (f := fun taken => f (c :: taken.1, taken.2))
        (fun taken => hf (c :: taken)) rest
      simpa [Part.takes, hc, List.flatMap_map] using hrest
    · simp [Part.takes, hc]

theorem head?_takes_many1 (cs : List Char) :
    ((Part.many1 p).takes cs).head? =
      if (cs.takeWhile p).isEmpty then none else some (cs.takeWhile p, cs.dropWhile p) := by
  cases cs with
  | nil => rfl
  | cons c rest => by_cases hc : p c = true <;> simp [Part.takes, hc, head?_takeMany]

end PolicyHeader.Text
