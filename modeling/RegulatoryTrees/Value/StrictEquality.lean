import RegulatoryTrees.Value

/-!
# Strict equality

Equality without conversion: truth values are equal to truth values only, texts to texts only, and numbers by their exact
value, whole or not. Lists and tuples are compared item by item, and mappings key by key. Sets are compared by their members,
which are scalars, and there, as among keys, a truth value is a number.
-/

namespace RegulatoryTrees

namespace Scalar

/-- Equality of scalars of which some count as numbers: these by their exact value, so that NaN is equal to nothing. -/
def equalsBy (count : Scalar → Option Number) (a b : Scalar) : Bool :=
  match count a, count b with
  | some x, some y => x.sameValue y
  | none, none =>
    match a, b with
    | .moment x, .moment y => x.same y
    | _, _ => a == b
  | _, _ => false

/-- Strict equality of scalars: no truth value counts as a number. -/
def strictEquals (a b : Scalar) : Bool := equalsBy number? a b

end Scalar

namespace Value

/-! ## Sets -/

/-- Two members of sets are equal. -/
def equalsMember : Value → Value → Bool
  | .scalar a, .scalar b => Scalar.equalsBy Scalar.keyNumber? a b
  | _, _ => false

/-- Each of two sets has the members of the other, in whatever order. -/
def sameMembers (xs ys : List Value) : Bool :=
  xs.all (fun x => ys.any fun y => equalsMember x y) && ys.all fun y => xs.any fun x => equalsMember x y

/-! ## All values -/

mutual

/-- Strict equality of values. -/
def strictEquals : Value → Value → Bool
  | .scalar a, .scalar b => a.strictEquals b
  | .missing, .missing => true
  | .sequence a xs, .sequence b ys =>
    a.isAlike b && if a = .set then sameMembers xs ys else strictEqualsItems xs ys
  | .mapping xs, .mapping ys => xs.length == ys.length && strictEqualsEntries xs ys
  | _, _ => false

/-- Strict equality item by item. -/
def strictEqualsItems : List Value → List Value → Bool
  | [], [] => true
  | x :: xs, y :: ys => strictEquals x y && strictEqualsItems xs ys
  | _, _ => false

/-- Every entry has an equal one under the same key. -/
def strictEqualsEntries : List (Scalar × Value) → List (Scalar × Value) → Bool
  | [], _ => true
  | (key, x) :: rest, ys =>
    (match lookupKey ys key with
      | some y => strictEquals x y
      | none => false) && strictEqualsEntries rest ys

end

/-- Whether an item is strictly equal to the value sought. -/
def strictContains (items : List Value) (needle : Value) : Bool :=
  items.any fun item => strictEquals item needle

end Value

end RegulatoryTrees
