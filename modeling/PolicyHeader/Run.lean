import PolicyHeader.Notice

/-!
# Runs

A run ends in a value or in an annotation error, and in either case leaves the notices that it made on
the way.
-/

namespace PolicyHeader

structure Run (α : Type) where
  notices : List Notice
  result : Except HeaderError α

namespace Run

variable {α β : Type}

/-- A run that makes one notice. -/
def note (notice : Notice) : Run Unit :=
  ⟨[notice], .ok ()⟩

/-- A run that ends without a notice. -/
def ofExcept (result : Except HeaderError α) : Run α :=
  ⟨[], result⟩

def fail (error : HeaderError) : Run α :=
  ofExcept (.error error)

/-- One run after another. An error ends the whole. -/
def andThen (first : Run α) (next : α → Run β) : Run β :=
  match first.result with
  | .ok a => ⟨first.notices ++ (next a).notices, (next a).result⟩
  | .error error => ⟨first.notices, .error error⟩

instance : Monad Run where
  pure a := ofExcept (.ok a)
  bind := andThen

@[simp]
theorem pure_eq (a : α) : (pure a : Run α) = ⟨[], .ok a⟩ :=
  rfl

@[simp]
theorem note_bind (notice : Notice) (next : Unit → Run β) :
    note notice >>= next = ⟨notice :: (next ()).notices, (next ()).result⟩ :=
  rfl

@[simp]
theorem fail_bind (error : HeaderError) (next : α → Run β) :
    (fail error : Run α) >>= next = ⟨[], .error error⟩ :=
  rfl

theorem bind_eq (first : Run α) (next : α → Run β) :
    first >>= next =
      match first.result with
      | .ok a => ⟨first.notices ++ (next a).notices, (next a).result⟩
      | .error error => ⟨first.notices, .error error⟩ :=
  rfl

end Run

end PolicyHeader
