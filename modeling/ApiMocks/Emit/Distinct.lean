import ApiMocks.Notice

/-!
# Distinct names

A module declares every name once: the first candidate for a name is kept, and every later one is
left out and reported.

Main definitions: `firsts`, `repeats`, `keepFirst`.
-/

namespace ApiMocks.Emit

variable {α : Type}

/-- The candidates whose name is not among `taken` and that no earlier candidate has. -/
def firsts (name : α → String) (taken : List String) : List α → List α
  | [] => []
  | x :: rest =>
    if name x ∈ taken then firsts name taken rest
    else x :: firsts name (name x :: taken) rest

/-- The other candidates. -/
def repeats (name : α → String) (taken : List String) : List α → List α
  | [] => []
  | x :: rest =>
    if name x ∈ taken then x :: repeats name taken rest
    else repeats name (name x :: taken) rest

/-- The first candidate for each name, and a notice for every other one. -/
def keepFirst (kind : DeclarationKind) (name : α → String) (candidates : List α) :
    Logged (List α) where
  value := firsts name [] candidates
  notices := (repeats name [] candidates).map fun x => .duplicate kind (name x)

end ApiMocks.Emit
