namespace Weave

/-- What a caller says about a value: nothing, the value itself, or that it is to
be empty, which is neither of the two. -/
inductive Choice (α : Type)
  | unset
  | emptied
  | made (value : α)
  deriving DecidableEq, Repr

namespace Choice

def ofOption {α : Type} : Option α → Choice α
  | none => .unset
  | some value => .made value

/-- The value, or the one that stands in for it. -/
def getD {α : Type} (choice : Choice α) (default : α) : α :=
  match choice with
  | .made value => value
  | .unset => default
  | .emptied => default

@[simp] theorem getD_unset {α : Type} (default : α) :
    (unset : Choice α).getD default = default := rfl

@[simp] theorem getD_emptied {α : Type} (default : α) :
    (emptied : Choice α).getD default = default := rfl

@[simp] theorem getD_made {α : Type} (value default : α) :
    (made value).getD default = value := rfl

end Choice

end Weave
