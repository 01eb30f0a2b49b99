import PolicyHeader.Yaml.Event

/-!
# Numbers for anchors

The number of an anchor says how many different names were bound before it. A name that is bound again
can thus share its number with the next new name.
-/

namespace PolicyHeader.Yaml

/-- The anchors that are bound. -/
structure Anchors where
  /-- The names with their numbers, the last one bound first. -/
  numbers : List (List Char × Nat)
  /-- How many different names are bound. -/
  count : Nat

namespace Anchors

def empty : Anchors :=
  ⟨[], 0⟩

/-- Binds a name to the next number. -/
def bind (anchors : Anchors) (name : List Char) : Anchors :=
  { numbers := (name, anchors.count) :: anchors.numbers
    count := if (anchors.numbers.lookup name).isSome then anchors.count else anchors.count + 1 }

/-- Binds a name if there is one, and gives its number. -/
def bind? (anchors : Anchors) : Option (List Char) → Anchors × Option Nat
  | none => (anchors, none)
  | some name => (anchors.bind name, some anchors.count)

/-- Numbers the anchor or alias of an event. An alias whose name is not bound is given back. -/
def number (anchors : Anchors) :
    Event (List Char) → Except (List Char) (Anchors × Event Nat)
  | .scalar anchor text plain =>
    let (anchors, number) := anchors.bind? anchor
    .ok (anchors, .scalar number text plain)
  | .sequenceStart anchor =>
    let (anchors, number) := anchors.bind? anchor
    .ok (anchors, .sequenceStart number)
  | .mappingStart anchor =>
    let (anchors, number) := anchors.bind? anchor
    .ok (anchors, .mappingStart number)
  | .sequenceEnd => .ok (anchors, .sequenceEnd)
  | .mappingEnd => .ok (anchors, .mappingEnd)
  | .alias name =>
    match anchors.numbers.lookup name with
    | none => .error name
    | some number => .ok (anchors, .alias number)

end Anchors

/-- Numbers the anchors and aliases of some events, up to an alias whose name is not bound. -/
def numberEvents (anchors : Anchors) :
    List (Event (List Char)) → List (Event Nat) × Option (List Char)
  | [] => ([], none)
  | event :: rest =>
    match anchors.number event with
    | .error name => ([], some name)
    | .ok (anchors, event) =>
      let (events, unbound) := numberEvents anchors rest
      (event :: events, unbound)

end PolicyHeader.Yaml
