/-!
# Values by key

A list of values by text keys, in the order in which the keys came. `put` gives a key a value: a new
key comes last, an old one keeps its place. `get?_put` says what is found after it.
-/

namespace MonitorOperator

/-- Values by key, in order. -/
abbrev Keyed (α : Type) : Type := List (String × α)

namespace Keyed

variable {α : Type}

/-- The value of a key. -/
def get? (entries : Keyed α) (key : String) : Option α :=
  (entries.find? fun entry => entry.1 == key).map (·.2)

/-- Give a key a value. -/
def put : Keyed α → String → α → Keyed α
  | [], key, value => [(key, value)]
  | entry :: rest, key, value =>
      if entry.1 = key then (key, value) :: rest else entry :: put rest key value

/-- The values without that of a key. -/
def remove (entries : Keyed α) (key : String) : Keyed α :=
  entries.filter fun entry => entry.1 != key

/-- The values when each overrides the earlier ones of its key. -/
def ofList (entries : List (String × α)) : Keyed α :=
  entries.foldl (fun found entry => put found entry.1 entry.2) []

@[simp] theorem get?_nil (key : String) : get? ([] : Keyed α) key = none := rfl

/-- The value under a key is the first entry's, or that of the others. -/
theorem get?_cons (entry : String × α) (rest : Keyed α) (key : String) :
    get? (entry :: rest) key = if entry.1 = key then some entry.2 else get? rest key := by
  by_cases h : entry.1 = key <;> simp [get?, h]

/-- After a value was put under a key, it is found there, and nothing else has changed. -/
theorem get?_put (entries : Keyed α) (key other : String) (value : α) :
    get? (put entries key value) other = if key = other then some value else get? entries other := by
  induction entries with
  | nil => simp [put, get?_cons]
  | cons entry rest ih =>
      unfold put
      split
      · rename_i h
        simp only [get?_cons, h]
        split <;> rfl
      · rename_i h
        simp only [get?_cons, ih]
        split
        · rename_i same
          rw [if_neg]
          intro equal
          exact h (same.trans equal.symm)
        · rfl

end Keyed

end MonitorOperator
