/-!
# Applying an operation that may fail to every element of a list
-/

namespace RestBindings.Traversal

variable {α β ε : Type}

/-- The results for all elements, or the error of the first element that has none. -/
def all (f : α → Except ε β) : List α → Except ε (List β)
  | [] => .ok []
  | a :: rest =>
    match f a with
    | .error e => .error e
    | .ok b =>
      match all f rest with
      | .error e => .error e
      | .ok bs => .ok (b :: bs)

end RestBindings.Traversal
