/-!
# Lists of named values

A list of pairs of a key and a value is read at the first pair with a key. Sorted lists have
their keys in the order of the bytes of the keys, each once; inserting keeps them so. Main
statement: reading after inserting gives the inserted value at its key and the old one elsewhere.
-/

namespace ComponentCompiler.Keyed

/-- The value of the first pair with a key. -/
def get? (key : String) : List (String × α) → Option α
  | [] => none
  | (k, v) :: rest => if key = k then some v else get? key rest

/-- Puts a value into a sorted list, in place of one with the same key. -/
def insert (key : String) (value : α) : List (String × α) → List (String × α)
  | [] => [(key, value)]
  | (k, v) :: rest =>
    if key = k then (key, value) :: rest
    else if key < k then (key, value) :: (k, v) :: rest
    else (k, v) :: insert key value rest

/-- The sorted list of the given pairs; of equal keys the last one counts. -/
def sorted (pairs : List (String × α)) : List (String × α) :=
  pairs.foldl (fun list pair => insert pair.1 pair.2 list) []

@[simp] theorem get?_nil (key : String) : get? key ([] : List (String × α)) = none := rfl

theorem get?_cons (key k : String) (v : α) (rest : List (String × α)) :
    get? key ((k, v) :: rest) = if key = k then some v else get? key rest := rfl

theorem get?_insert (key other : String) (value : α) (pairs : List (String × α)) :
    get? other (insert key value pairs) = if other = key then some value else get? other pairs := by
  induction pairs with
  | nil => rfl
  | cons pair rest ih =>
    obtain ⟨k, v⟩ := pair
    simp only [insert]
    split
    next h =>
      subst h
      simp only [get?_cons]
      split <;> rfl
    next h =>
      split
      · simp only [get?_cons]
      · simp only [get?_cons, ih]
        split
        next hk =>
          subst hk
          rw [if_neg (Ne.symm h)]
        · rfl

end ComponentCompiler.Keyed
