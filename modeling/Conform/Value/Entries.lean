import Conform.Value.Equality

/-
  The entries of a map: pairs of a key and a value, in the order in which the keys were first set.
  Equal keys are one key, written as it was set first.
-/

namespace Conform

abbrev Entries := List (Value × Value)

namespace Entries

/-- The value under a key. -/
def find? (entries : Entries) (key : Value) : Option Value :=
  (List.find? (fun entry => key.equals entry.1) entries).map (·.2)

def hasKey (entries : Entries) (key : Value) : Bool := entries.any fun entry => key.equals entry.1

/-- The entries with the value set under the key, where `same` tells which keys are one: in its
place if the key is there, else last. -/
def insertBy (same : Value → Value → Bool) : Entries → Value → Value → Entries
  | [], key, value => [(key, value)]
  | entry :: rest, key, value =>
    if same key entry.1 then (entry.1, value) :: rest else entry :: insertBy same rest key value

/-- The entries with the value set under the key: in its place if the key is there, else last. -/
def insert (entries : Entries) (key value : Value) : Entries :=
  insertBy Value.equals entries key value

/-- The entries that result from setting all pairs in order, where `same` tells which keys are
one. -/
def ofPairsBy (same : Value → Value → Bool) (pairs : List (Value × Value)) : Entries :=
  pairs.foldl (fun entries pair => insertBy same entries pair.1 pair.2) []

/-- The entries that result from setting all pairs in order. -/
def ofPairs (pairs : List (Value × Value)) : Entries := ofPairsBy Value.equals pairs

/-- The value under a text. -/
def get? (entries : Entries) (key : String) : Option Value := entries.find? (.str key)

theorem hasKey_iff_find? (entries : Entries) (key : Value) :
    entries.hasKey key = (entries.find? key).isSome := by
  induction entries with
  | nil => rfl
  | cons entry rest ih =>
    cases h : key.equals entry.1 <;>
      simp_all [hasKey, find?]

end Entries
end Conform
