import PolicyHeader.Proofs.Text.Unquoting
import PolicyHeader.Tag

/-!
# A message tells its error

Two errors with the same message are the same (`HeaderError.message_inj`). The first letter of a message tells
which kind of error it is of. A tag or a word that is not quoted stands alone at the end, or in front of a
fixed text, so nothing in it can be taken for something else. The number of values ends at the first colon,
since digits are no colons, and the line behind it is quoted.
-/

namespace PolicyHeader.HeaderError

/-- The letter that the messages of a kind of error open with. -/
def initial : HeaderError → Char
  | .tagMismatch _ => 'L'
  | .noValues _ => 'A'
  | .requirementArity .. => '@'
  | .malformedLabel _ => 'M'

theorem head?_append {opening : String} {c : Char} (h : opening.toList.head? = some c) (rest : String) :
    (opening ++ rest).toList.head? = some c := by
  rw [String.toList_append, List.head?_append, h, Option.some_or]

theorem head?_message (error : HeaderError) : error.message.toList.head? = some error.initial := by
  cases error with
  | tagMismatch tag =>
    have hopening : "Line does not start with tag ".toList.head? = some 'L' := by decide
    exact head?_append hopening _
  | noValues tag =>
    have hopening : "Annotation ".toList.head? = some 'A' := by decide
    exact head?_append (head?_append hopening _) _
  | requirementArity line found =>
    have hopening : Tag.requirement.toList.head? = some '@' := by decide
    exact head?_append (head?_append (head?_append (head?_append hopening _) _) _) _
  | malformedLabel token =>
    have hopening : "Malformed ".toList.head? = some 'M' := by decide
    exact head?_append (head?_append (head?_append hopening _) _) _

theorem initial_eq_of_message_eq {first second : HeaderError} (h : first.message = second.message) :
    first.initial = second.initial := by
  have hhead := head?_message second
  rw [← h, head?_message] at hhead
  exact Option.some.inj hhead

/-- A number goes up to the first colon. -/
theorem cutText?_number (n : Nat) (text : String) :
    Text.cutText? ':' (toString n ++ (": " ++ text)) = some (toString n, " " ++ text) := by
  refine Text.cutText?_eq_some_iff.2 ⟨fun h => ?_, ?_⟩
  · rw [Nat.toString_eq_ofList_toDigits, String.toList_ofList] at h
    exact absurd (Text.mem_digitChars_of_mem_toDigits h) (by decide)
  · have hcolon : ": ".toList = ':' :: " ".toList := by decide
    rw [String.toList_append, String.toList_append, String.toList_append, hcolon, List.cons_append]

theorem message_requirementArity (line : String) (found : Nat) :
    (requirementArity line found).message =
      Tag.requirement ++ " expects 2 or 3 arguments, found " ++
        (toString found ++ (": " ++ Text.quote line)) := by
  have hmessage : (requirementArity line found).message =
      Tag.requirement ++ " expects 2 or 3 arguments, found " ++ toString found ++ ": " ++
        Text.quote line := rfl
  rw [hmessage, String.append_assoc, String.append_assoc]

theorem eq_of_message_requirementArity {line other : String} {m n : Nat}
    (h : (requirementArity line m).message = (requirementArity other n).message) :
    line = other ∧ m = n := by
  rw [message_requirementArity, message_requirementArity, String.append_right_inj] at h
  have hcut := cutText?_number n (Text.quote other)
  rw [← h, cutText?_number, Option.some.injEq, Prod.mk.injEq, String.append_right_inj,
    Text.quote_inj] at hcut
  exact ⟨hcut.2, Text.eq_of_toString_eq hcut.1⟩

/-- **A message tells its error.** Errors of different kinds, and errors of one kind that tell of another
tag, of another word, of another line or of another number of values, have different messages, whatever the
characters in them. -/
theorem message_inj {first second : HeaderError} : first.message = second.message ↔ first = second := by
  refine ⟨fun h => ?_, congrArg message⟩
  have hinitial := initial_eq_of_message_eq h
  -- errors of different kinds open with different letters
  cases first with
  | tagMismatch tag =>
    cases second with
    | tagMismatch other => exact congrArg _ ((String.append_right_inj _).1 h)
    | noValues | requirementArity | malformedLabel => exact absurd hinitial (by simp [initial])
  | noValues tag =>
    cases second with
    | noValues other =>
      exact congrArg _ ((String.append_right_inj _).1 ((String.append_left_inj _).1 h))
    | tagMismatch | requirementArity | malformedLabel => exact absurd hinitial (by simp [initial])
  | requirementArity line m =>
    cases second with
    | requirementArity other n =>
      obtain ⟨rfl, rfl⟩ := eq_of_message_requirementArity h
      rfl
    | tagMismatch | noValues | malformedLabel => exact absurd hinitial (by simp [initial])
  | malformedLabel token =>
    cases second with
    | malformedLabel other => exact congrArg _ ((String.append_right_inj _).1 h)
    | tagMismatch | noValues | requirementArity => exact absurd hinitial (by simp [initial])

end PolicyHeader.HeaderError
