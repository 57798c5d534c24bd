import Mathlib.Algebra.BigOperators.Group.List.Basic
import Mathlib.Algebra.Field.Defs
import Mathlib.Order.Lattice

namespace OpticsSoftfail

/-!
# Doubles that may be NaN

The finite doubles are elements of an ordered field, and NaN is added to them.
It compares with nothing, and every operation passes it on.  Nothing below
mentions the optical services.
-/

/-- A score as a double: a number, or not a number. -/
inductive FloatScore (Value : Type) where
  | number (value : Value)
  | nan
  deriving Repr, DecidableEq

namespace FloatScore

/-- The number, unless the double is NaN. -/
def number? {Value : Type} : FloatScore Value → Option Value
  | number value => some value
  | nan => none

section Order

variable {Value : Type} [LinearOrder Value]

/-- Every comparison with `nan` is false. -/
protected def Less : FloatScore Value → FloatScore Value → Prop
  | number left, number right => left < right
  | _, _ => False

protected def AtMost : FloatScore Value → FloatScore Value → Prop
  | number left, number right => left ≤ right
  | _, _ => False

instance : LT (FloatScore Value) := ⟨FloatScore.Less⟩

instance : LE (FloatScore Value) := ⟨FloatScore.AtMost⟩

instance : DecidableLT (FloatScore Value)
  | number left, number right => inferInstanceAs (Decidable (left < right))
  | number _, nan => isFalse id
  | nan, _ => isFalse id

instance : DecidableLE (FloatScore Value)
  | number left, number right => inferInstanceAs (Decidable (left ≤ right))
  | number _, nan => isFalse id
  | nan, _ => isFalse id

end Order

section Arithmetic

variable {Value : Type}

/-- Apply a function to a number. -/
def map (function : Value → Value) : FloatScore Value → FloatScore Value
  | number value => number (function value)
  | nan => nan

/-- Combine two numbers. -/
def combine (operation : Value → Value → Value) :
    FloatScore Value → FloatScore Value → FloatScore Value
  | number left, number right => number (operation left right)
  | _, _ => nan

variable [Field Value]

instance : Zero (FloatScore Value) := ⟨number 0⟩

instance : NatCast (FloatScore Value) := ⟨fun count => number (count : Value)⟩

instance : Add (FloatScore Value) := ⟨combine (· + ·)⟩

instance : Sub (FloatScore Value) := ⟨combine (· - ·)⟩

instance : Mul (FloatScore Value) := ⟨combine (· * ·)⟩

/-- A zero divisor gives NaN; an infinity is not told apart from it. -/
instance [DecidableEq Value] : Div (FloatScore Value) :=
  ⟨fun dividend divisor =>
    if divisor = number 0 then nan else combine (· / ·) dividend divisor⟩

theorem natCast_eq (count : Nat) :
    (count : FloatScore Value) = number (count : Value) :=
  rfl

@[simp] theorem number_add (left right : Value) :
    number left + number right = number (left + right) :=
  rfl

@[simp] theorem number_sub (left right : Value) :
    number left - number right = number (left - right) :=
  rfl

@[simp] theorem number_mul (left right : Value) :
    number left * number right = number (left * right) :=
  rfl

theorem number_div
    [DecidableEq Value]
    (dividend : Value)
    {divisor : Value}
    (nonzero : divisor ≠ 0) :
    number dividend / number divisor = number (dividend / divisor) :=
  if_neg fun same => nonzero (number.inj same)

theorem div_zero_eq_nan
    [DecidableEq Value]
    (dividend : FloatScore Value) :
    dividend / number 0 = nan :=
  if_pos rfl

/-- Numbers are added up to a number. -/
theorem sum_map_number (values : List Value) :
    (values.map number).sum = number values.sum := by
  induction values with
  | nil =>
      rfl
  | cons value rest inductionHypothesis =>
      rw [List.map_cons, List.sum_cons, List.sum_cons, inductionHypothesis,
        number_add]

end Arithmetic

section Numbers

/-! ## Operations that do not lead to NaN -/

variable {Value : Type} {first second : FloatScore Value}

theorem number_ne_nan (value : Value) : number value ≠ nan := by
  simp

theorem map_ne_nan
    (function : Value → Value)
    (isNumber : first ≠ nan) :
    first.map function ≠ nan := by
  cases first with
  | number value => exact number_ne_nan _
  | nan => exact absurd rfl isNumber

theorem combine_ne_nan
    (operation : Value → Value → Value)
    (isFirst : first ≠ nan)
    (isSecond : second ≠ nan) :
    combine operation first second ≠ nan := by
  cases first with
  | nan => exact absurd rfl isFirst
  | number left =>
      cases second with
      | nan => exact absurd rfl isSecond
      | number right => exact number_ne_nan _

/-- Only numbers are compared. -/
theorem ne_nan_of_lt
    [LinearOrder Value]
    (less : first < second) :
    second ≠ nan := by
  rintro rfl
  cases first <;> exact less

variable [Field Value]

theorem add_ne_nan (isFirst : first ≠ nan) (isSecond : second ≠ nan) :
    first + second ≠ nan :=
  combine_ne_nan _ isFirst isSecond

theorem sub_ne_nan (isFirst : first ≠ nan) (isSecond : second ≠ nan) :
    first - second ≠ nan :=
  combine_ne_nan _ isFirst isSecond

theorem mul_ne_nan (isFirst : first ≠ nan) (isSecond : second ≠ nan) :
    first * second ≠ nan :=
  combine_ne_nan _ isFirst isSecond

theorem div_ne_nan
    [DecidableEq Value]
    (isFirst : first ≠ nan)
    (isSecond : second ≠ nan)
    (nonzero : second ≠ number 0) :
    first / second ≠ nan := by
  have isQuotient : first / second = combine (· / ·) first second :=
    if_neg nonzero
  rw [isQuotient]
  exact combine_ne_nan _ isFirst isSecond

theorem sum_ne_nan
    {scores : List (FloatScore Value)}
    (areNumbers : ∀ score ∈ scores, score ≠ nan) :
    scores.sum ≠ nan := by
  induction scores with
  | nil =>
      exact number_ne_nan 0
  | cons score rest inductionHypothesis =>
      obtain ⟨isFirst, areRest⟩ := List.forall_mem_cons.mp areNumbers
      rw [List.sum_cons]
      exact add_ne_nan isFirst (inductionHypothesis areRest)

theorem ne_of_zero_lt
    [LinearOrder Value]
    (positive : 0 < first) :
    first ≠ number 0 := by
  rintro rfl
  exact lt_irrefl (0 : Value) positive

end Numbers

end FloatScore

end OpticsSoftfail
