import QuoteBridge.Text.Numeral
import QuoteBridge.Text.Split

/-!
# Items

The feed carries thirty items.  An item is written `item` followed by its number; any unsigned
numeral for the number is understood, and the canonical name uses the shortest one.

**Order.**  Items are ordered by their names as texts, so `item10` comes before `item2`.
-/

namespace QuoteBridge

/-- One of the items `item1` to `item30`, by its place in that list. -/
structure Item where
  index : Fin 30
  deriving DecidableEq, Repr

/-- Why a text names no item; every cause carries the text. -/
inductive ItemError
  | missingPrefix (name : String)
  | nonNumeric (name : String)
  | outOfRange (name : String) (id : Nat)
  deriving DecidableEq, Repr

namespace ItemError

/-- The rejected text. -/
def name : ItemError → String
  | .missingPrefix n => n
  | .nonNumeric n => n
  | .outOfRange n _ => n

def message : ItemError → String
  | .missingPrefix n => "Unexpected item " ++ n ++ ": missing 'item' prefix"
  | .nonNumeric n => "Unexpected item " ++ n ++ ": non-numeric item id"
  | .outOfRange n id =>
      "Unexpected item " ++ n ++ ": id " ++ Numeral.write id ++ " outside 1..=30"

end ItemError

namespace Item

/-- The start of every item name. -/
def stem : String := "item"

/-- Item numbers are read below this bound. -/
def numberBound : Nat := UInt32.size

/-- Number of the item, from 1 to 30. -/
def id (i : Item) : Nat := i.index.val + 1

/-- Canonical name of the item. -/
def name (i : Item) : String := stem ++ Numeral.write i.id

/-- The item with a given number. -/
def ofId? (n : Nat) : Option Item :=
  if h : 1 ≤ n ∧ n ≤ 30 then some ⟨⟨n - 1, by omega⟩⟩ else none

/-- Reads an item name. -/
def parse (text : String) : Except ItemError Item :=
  match Text.after? stem.toList text.toList with
  | none => .error (.missingPrefix text)
  | some suffix =>
      match Numeral.read numberBound suffix with
      | .error _ => .error (.nonNumeric text)
      | .ok n =>
          match ofId? n with
          | none => .error (.outOfRange text n)
          | some i => .ok i

/-- The item with a given number, or the error for its name. -/
def ofId (n : Nat) : Except ItemError Item := parse (stem ++ Numeral.write n)

/-- All items by number. -/
def all : List Item := (List.finRange 30).map Item.mk

theorem index_eq_of_name_eq :
    ∀ i j : Fin 30, (Item.mk i).name = (Item.mk j).name → i = j := by
  decide +kernel

theorem name_injective {a b : Item} (h : a.name = b.name) : a = b := by
  cases a with
  | mk i =>
      cases b with
      | mk j => rw [index_eq_of_name_eq i j h]

instance : Ord Item := ⟨compareOn name⟩

instance : Std.TransOrd Item := inferInstanceAs (Std.TransCmp (compareOn name))

instance : Std.LawfulEqOrd Item where
  compare_self {a} := by
    show compare a.name a.name = .eq
    exact Std.ReflCmp.compare_self
  eq_of_compare h := name_injective (Std.LawfulEqOrd.eq_of_compare h)

end Item

end QuoteBridge
