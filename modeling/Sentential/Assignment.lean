/-
# Sentential.Assignment -- what the variables are worth

An assignment gives values to names. The values need not be truth values: whatever has a truth
reading will do, and the reading is what counts. A name may be missing, and a name that is given
twice has its later value.
-/

namespace Sentential

/-- Values that can be read as true or false. -/
class Truth (α : Type) where
  holds : α → Bool

instance : Truth Bool where
  holds b := b

/-- A value as it comes in a structured document. Of a list or record only the number of its
entries is kept, and of a number its decimal mantissa and scale. -/
inductive Datum where
  | null
  | boolean (value : Bool)
  | number (mantissa : Int) (scale : Nat)
  | text (value : String)
  | list (size : Nat)
  | record (size : Nat)
  deriving DecidableEq, Repr

/-- Nothing, false, zero and everything empty are false; all else is true. -/
def Datum.holds : Datum → Bool
  | .null => false
  | .boolean b => b
  | .number mantissa _ => mantissa != 0
  | .text s => s != ""
  | .list size => size != 0
  | .record size => size != 0

instance : Truth Datum where
  holds := Datum.holds

/-- Values for finitely many names. -/
structure Assignment (α : Type) where
  /-- The bindings; of two for one name the earlier counts. -/
  bindings : List (String × α)
  deriving Repr

namespace Assignment

variable {α : Type}

/-- The assignment that takes the pairs in turn, so that the last pair of a name counts. -/
def ofPairs (pairs : List (String × α)) : Assignment α := ⟨pairs.reverse⟩

/-- The value of a name. -/
def get? (a : Assignment α) (name : String) : Option α := a.bindings.lookup name

/-- The name has a value. -/
def Binds (a : Assignment α) (name : String) : Prop := (a.get? name).isSome

instance (a : Assignment α) (name : String) : Decidable (a.Binds name) :=
  inferInstanceAs (Decidable (_ = true))

/-- How the value of a name reads. -/
def truth? [Truth α] (a : Assignment α) (name : String) : Option Bool :=
  (a.get? name).map Truth.holds

end Assignment

end Sentential
