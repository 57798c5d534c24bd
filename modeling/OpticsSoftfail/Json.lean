import Mathlib.Algebra.Order.Floor.Defs

namespace OpticsSoftfail

/-!
# JSON documents

The value a JSON parser hands to the services.  Numbers are read as doubles:
their finite values lie in an ordered field left open, and of the others only
that they are not finite is ever used.
-/

/-- What `get<double>()` returns. -/
inductive Double (Value : Type) where
  | finite (value : Value)
  | nonFinite
  deriving Repr, DecidableEq

/-- A parsed document; the members of an object have different keys. -/
inductive Json (Value : Type) where
  | null
  | boolean (value : Bool)
  | number (value : Double Value)
  | string (value : String)
  | array (items : List (Json Value))
  | object (members : List (String × Json Value))
  deriving Repr

namespace Json

variable {Value : Type}

/-- `is_object()`. -/
def isObject : Json Value → Bool
  | .object _ => true
  | _ => false

/-- `find(key)`; a value that is not an object has no members. -/
def find? (doc : Json Value) (key : String) : Option (Json Value) :=
  match doc with
  | .object members =>
      (members.find? fun member => member.1 = key).map Prod.snd
  | _ => none

end Json

/-- Truncation towards zero: Python's `int()` and C++'s integer casts. -/
def truncateToInt
    {Value : Type}
    [Ring Value] [LinearOrder Value] [FloorRing Value]
    (value : Value) : Int :=
  if 0 ≤ value then ⌊value⌋ else ⌈value⌉

end OpticsSoftfail
