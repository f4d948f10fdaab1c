-- SUMMARY: Association lists with text keys in code point order, each key once.

/-!
# Dictionaries

A dictionary is a list of pairs in the order of its keys, which is code point
order, and no key stands twice. Writing a key a second time replaces its value.
The order is part of the value, so two dictionaries with the same entries are
equal and print alike.
-/

namespace EthRpc

abbrev Dict (α : Type) := List (String × α)

namespace Dict

variable {α β : Type}

/-- Put a value under a key, in place of what stood there. -/
def insert (key : String) (value : α) : Dict α → Dict α
  | [] => [(key, value)]
  | (k, v) :: rest =>
    if key < k then (key, value) :: (k, v) :: rest
    else if key = k then (key, value) :: rest
    else (k, v) :: insert key value rest

/-- The value under a key. -/
def get? (key : String) : Dict α → Option α
  | [] => none
  | (k, v) :: rest => if key = k then some v else get? key rest

/-- Later pairs win over earlier ones with the same key. -/
def ofList (pairs : List (String × α)) : Dict α :=
  pairs.foldl (fun d p => d.insert p.1 p.2) []

/-- Lay one dictionary over another, whose entries it hides where both have the key. -/
def overlay (top bottom : Dict α) : Dict α :=
  top.foldl (fun d p => d.insert p.1 p.2) bottom

/-- Change the value under a key, which is `none` while the key is absent. -/
def update (key : String) (f : Option α → α) (d : Dict α) : Dict α :=
  d.insert key (f (d.get? key))

/-- The same keys with other values. -/
def mapValues (f : α → β) (d : Dict α) : Dict β := d.map fun p => (p.1, f p.2)

@[simp] theorem get?_nil (key : String) : get? key ([] : Dict α) = none := rfl

theorem get?_insert (key k : String) (v : α) (d : Dict α) :
    (d.insert k v).get? key = if key = k then some v else d.get? key := by
  induction d with
  | nil => simp [insert, get?]
  | cons p rest ih =>
    obtain ⟨k', v'⟩ := p
    simp only [insert]
    split
    · simp [get?]
    · split
      · next h => subst h; by_cases hk : key = k <;> simp [get?, hk]
      · next hlt hne =>
        simp only [get?, ih]
        by_cases h : key = k'
        · subst h; simp [Ne.symm hne]
        · simp [h]

@[simp] theorem get?_insert_self (k : String) (v : α) (d : Dict α) :
    (d.insert k v).get? k = some v := by simp [get?_insert]

end Dict

end EthRpc
