import OpticsSoftfail.Binary64
import OpticsSoftfail.IngestGrammar
import OpticsSoftfail.IngestWindow

namespace OpticsSoftfail

/-!
# Timestamps from the document to the frame

`validate_sample` reads `ts_unix_ms` as a double and casts the double to an
`int64_t`.  A document may hold the number as an integer of 64 bits, which is
rounded to a double first, or as a double of any size.
-/

section Rounding

/-! ## Integers as doubles -/

/-- The distance of neighbouring doubles around an integer. -/
def ulp (n : Nat) : Nat :=
  2 ^ (Nat.log2 n - 52)

/-- The double next to an integer; a tie goes to the even significand. -/
def nearestDouble (n : Nat) : Nat :=
  let below := n / ulp n * ulp n
  if ulp n < 2 * (n % ulp n) ∨
      ulp n = 2 * (n % ulp n) ∧ n / ulp n % 2 = 1 then
    below + ulp n
  else
    below

/-- `static_cast<double>` of an integer. -/
def toDouble (value : Int) : Int :=
  if value < 0 then -(nearestDouble value.natAbs)
  else nearestDouble value.natAbs

theorem ulp_pos (n : Nat) : 0 < ulp n :=
  Nat.two_pow_pos _

theorem ulp_dvd_nearestDouble (n : Nat) : ulp n ∣ nearestDouble n := by
  simp only [nearestDouble]
  split
  · exact Nat.dvd_add (Nat.dvd_mul_left _ _) (Nat.dvd_refl _)
  · exact Nat.dvd_mul_left _ _

/-- Exactly the multiples of their ulp are doubles themselves. -/
theorem nearestDouble_eq_self_iff {n : Nat} :
    nearestDouble n = n ↔ ulp n ∣ n := by
  constructor
  · intro same
    rw [← same]
    have divides := ulp_dvd_nearestDouble n
    rwa [same] at divides ⊢
  · intro divides
    have noRest : n % ulp n = 0 := Nat.mod_eq_zero_of_dvd divides
    have positive := ulp_pos n
    simp only [nearestDouble, noRest]
    rw [if_neg (by omega), Nat.div_mul_cancel divides]

/-- No double is nearer than half an ulp. -/
theorem nearestDouble_near (n : Nat) :
    2 * nearestDouble n ≤ 2 * n + ulp n ∧
      2 * n ≤ 2 * nearestDouble n + ulp n := by
  have split := Nat.div_add_mod' n (ulp n)
  have small := Nat.mod_lt n (ulp_pos n)
  simp only [nearestDouble]
  split <;> omega

/-- A positive integer keeps its sign. -/
theorem nearestDouble_pos {n : Nat} (positive : 0 < n) :
    0 < nearestDouble n := by
  have atMost : ulp n ≤ n := by
    calc
      ulp n ≤ 2 ^ Nat.log2 n :=
        Nat.pow_le_pow_right (by decide) (Nat.sub_le _ _)
      _ ≤ n := Nat.log2_self_le positive.ne'
  have quotient : 0 < n / ulp n := Nat.div_pos atMost (ulp_pos n)
  have below : 0 < n / ulp n * ulp n := Nat.mul_pos quotient (ulp_pos n)
  simp only [nearestDouble]
  split <;> omega

theorem toDouble_nonneg_iff {value : Int} :
    0 ≤ toDouble value ↔ 0 ≤ value := by
  by_cases negative : value < 0
  · have positive := nearestDouble_pos (Int.natAbs_pos.mpr negative.ne)
    simp only [toDouble, negative, if_true]
    omega
  · simp only [toDouble, negative, if_false]
    omega

theorem toDouble_eq_self_iff {value : Int} (nonneg : 0 ≤ value) :
    toDouble value = value ↔ ulp value.natAbs ∣ value.natAbs := by
  rw [← nearestDouble_eq_self_iff, toDouble, if_neg nonneg.not_gt]
  omega

section Doubles

variable {Value : Type} [Field Value] [LinearOrder Value] [FloorRing Value]
variable [IsStrictOrderedRing Value]

/-- The natural numbers have the double that the ingest computes. -/
theorem nearestMagnitude_natCast (n : Nat) :
    Binary64.nearestMagnitude (n : Value) = (nearestDouble n : Nat) := by
  rcases Nat.eq_zero_or_pos n with rfl | positive
  · simp [Binary64.nearestMagnitude, roundEven, nearestDouble]
  · rcases Nat.lt_or_ge (Nat.log2 n) 52 with small | large
    · have isUlp : ulp n = 1 := by
        rw [ulp, Nat.sub_eq_zero_of_le small.le, Nat.pow_zero]
      rw [Binary64.nearestMagnitude_of_log2_lt positive small,
        nearestDouble_eq_self_iff.mpr (isUlp ▸ one_dvd n)]
    · have isUlp : Binary64.ulp (n : Value) = (ulp n : Nat) := by
        rw [Binary64.ulp_eq, Binary64.exponent_natCast positive, ulp,
          Nat.cast_pow, Nat.cast_ofNat, ← zpow_natCast, Nat.cast_sub large]
        rfl
      rw [Binary64.nearestMagnitude, isUlp, roundEven_div n (ulp_pos n),
        nearestDouble]
      split_ifs <;>
        simp only [Int.cast_add, Int.cast_natCast, Int.cast_one,
          Nat.cast_add, Nat.cast_mul, add_mul, one_mul]

/-- An integer is the same double at the ingest and at the healer. -/
theorem ofInt_eq_toDouble (value : Int) :
    (Binary64.ofInt value : Value) = (toDouble value : Int) := by
  simp only [Binary64.ofInt, Binary64.nearest, toDouble, Int.cast_lt_zero]
  split_ifs with negative
  · have isMagnitude : -(value : Value) = (value.natAbs : Nat) := by
      rw [← Int.cast_neg, ← Int.cast_natCast,
        Int.ofNat_natAbs_of_nonpos negative.le]
    rw [isMagnitude, nearestMagnitude_natCast, Int.cast_neg, Int.cast_natCast]
  · have isMagnitude : (value : Value) = (value.natAbs : Nat) := by
      rw [← Int.cast_natCast, Int.natAbs_of_nonneg (not_lt.mp negative)]
    rw [isMagnitude, nearestMagnitude_natCast, Int.cast_natCast]

end Doubles

/-- Beyond `2 ^ 53` an odd integer is rounded. -/
example : toDouble (2 ^ 53 + 1) = 2 ^ 53 := by
  decide +kernel

end Rounding

/-- An integer of `nlohmann::json`, an `int64_t` or a `uint64_t`. -/
structure JsonInteger where
  value : Int
  lower : -2 ^ 63 ≤ value
  upper : value < 2 ^ 64
  deriving Repr, DecidableEq

/-- A document before its numbers are read as doubles. -/
inductive Document (Value : Type) where
  | null
  | boolean (value : Bool)
  | integer (number : JsonInteger)
  | float (number : Double Value)
  | string (text : String)
  | array (items : List (Document Value))
  | object (members : List (String × Document Value))

namespace Document

variable {Value : Type}

mutual

/-- The document as `get<double>()` shows its numbers. -/
def read [IntCast Value] : Document Value → Json Value
  | .null => .null
  | .boolean value => .boolean value
  | .integer number => .number (.finite (toDouble number.value : Int))
  | .float number => .number number
  | .string text => .string text
  | .array items => .array (readItems items)
  | .object members => .object (readMembers members)

def readItems [IntCast Value] :
    List (Document Value) → List (Json Value)
  | [] => []
  | item :: rest => item.read :: readItems rest

def readMembers [IntCast Value] :
    List (String × Document Value) → List (String × Json Value)
  | [] => []
  | (key, value) :: rest => (key, value.read) :: readMembers rest

end

/-- `find(key)`. -/
def find? (document : Document Value) (key : String) :
    Option (Document Value) :=
  match document with
  | .object members =>
      (members.find? fun member => member.1 = key).map Prod.snd
  | _ => none

/-- Reading the numbers as doubles keeps the members where they are. -/
theorem find?_read
    [IntCast Value]
    (document : Document Value)
    (key : String) :
    document.read.find? key = (document.find? key).map read := by
  cases document with
  | object members =>
      simp only [read, Json.find?, find?]
      induction members with
      | nil =>
          rfl
      | cons member rest inductionHypothesis =>
          by_cases isKey : member.1 = key
          · simp [readMembers, isKey]
          · simpa [readMembers, isKey] using inductionHypothesis
  | _ =>
      rfl

section Timestamp

variable [Ring Value] [LinearOrder Value] [FloorRing Value]

/-- The stored number is the integer part of the document's number. -/
def IsIntegerPart (stored : Int) : Document Value → Prop
  | .integer number => stored = number.value
  | .float (.finite value) => stored = truncateToInt value
  | _ => False

/-- The number is below `2 ^ 63` and an integer is a double itself. -/
def FitsInt64 : Document Value → Prop
  | .integer number =>
      number.value < 2 ^ 63 ∧ ulp number.value.natAbs ∣ number.value.natAbs
  | .float (.finite value) => truncateToInt value < 2 ^ 63
  | _ => False

/-- The document's timestamp fits. -/
def TimestampFits (document : Document Value) : Prop :=
  ∃ number,
    document.find? "ts_unix_ms" = some number ∧ number.FitsInt64

/-- A number from zero on fits when its integer part does. -/
theorem truncateToInt_lt_iff
    [IsStrictOrderedRing Value]
    {value : Value}
    (nonneg : 0 ≤ value) :
    truncateToInt value < 2 ^ 63 ↔ value < 2 ^ 63 := by
  rw [truncateToInt, if_pos nonneg, Int.floor_lt]
  norm_cast

/-- A number is cast to its integer part exactly when it fits. -/
theorem isIntegerPart_castInt64_iff
    [IsStrictOrderedRing Value]
    (library : IngestLibrary Value)
    {number : Document Value}
    {raw : Value}
    (isRaw : number.read = .number (.finite raw))
    (nonneg : 0 ≤ raw) :
    truncateToInt raw < 2 ^ 63 ∧
        IsIntegerPart (castInt64 library raw) number ↔
      number.FitsInt64 := by
  have cast (fits : truncateToInt raw < 2 ^ 63) :
      castInt64 library raw = truncateToInt raw :=
    castInt64_of_fits nonneg ((truncateToInt_lt_iff nonneg).mp fits)
  cases number with
  | integer number =>
      obtain rfl : ((toDouble number.value : Int) : Value) = raw := by
        simpa [read] using isRaw
      have isNonneg : 0 ≤ number.value :=
        toDouble_nonneg_iff.mp (Int.cast_nonneg_iff.mp nonneg)
      simp only [IsIntegerPart, FitsInt64, ← toDouble_eq_self_iff isNonneg]
      rw [truncateToInt_intCast] at cast ⊢
      constructor
      · rintro ⟨fits, isPart⟩
        rw [cast fits] at isPart
        exact ⟨isPart ▸ fits, isPart⟩
      · rintro ⟨fits, same⟩
        rw [cast (same.symm ▸ fits)]
        exact ⟨same.symm ▸ fits, same⟩
  | float number =>
      obtain rfl : number = .finite raw := by
        simpa [read] using isRaw
      exact ⟨fun both => both.1, fun fits => ⟨fits, cast fits⟩⟩
  | _ =>
      simp [read] at isRaw

end Timestamp

section Frame

variable
  [Field Value] [LinearOrder Value] [IsStrictOrderedRing Value]
  [FloorRing Value]

/--
The double that was cast fits an `int64_t`, and the sample and every frame that
ends with it carry the integer part of the document's number.
-/
def TimestampSurvives
    (library : IngestLibrary Value)
    (document : Document Value)
    (sample : Sample Value) : Prop :=
  ∃ number raw,
    document.find? "ts_unix_ms" = some number ∧
      number.read = .number (.finite raw) ∧
      truncateToInt raw < 2 ^ 63 ∧
      IsIntegerPart sample.tsUnixMs number ∧
      ∀ window : Window Value,
        ∃ frame,
          buildFrame library (window.push sample) = some frame ∧
            IsIntegerPart frame.tsUnixMs number

/-- Of the accepted documents, those survive whose timestamp fits. -/
theorem timestampSurvives_iff_fits
    {library : IngestLibrary Value}
    {document : Document Value}
    {out sample : Sample Value}
    (accepted :
      validateSample library document.read out = (sample, .ok ())) :
    TimestampSurvives library document sample ↔ document.TimestampFits := by
  obtain ⟨raw, hasTs, nonneg, isStored⟩ :=
    readTimestamp_eq_ok_iff.mp
      (validateSample_eq_ok_iff.mp accepted).tsUnixMs
  rw [Json.HasNumber, find?_read] at hasTs
  obtain ⟨number, found, isRaw⟩ := Option.map_eq_some_iff.mp hasTs
  have exact_iff := isIntegerPart_castInt64_iff library isRaw nonneg
  rw [← isStored] at exact_iff
  constructor
  · rintro ⟨other, otherRaw, otherFound, otherIsRaw, fits, isPart, _⟩
    obtain rfl : number = other :=
      Option.some.inj (found.symm.trans otherFound)
    obtain rfl : raw = otherRaw := by
      simpa [isRaw] using otherIsRaw
    exact ⟨number, found, exact_iff.mp ⟨fits, isPart⟩⟩
  · rintro ⟨other, otherFound, numberFits⟩
    obtain rfl : number = other :=
      Option.some.inj (found.symm.trans otherFound)
    obtain ⟨fits, isPart⟩ := exact_iff.mpr numberFits
    refine ⟨number, raw, found, isRaw, fits, isPart, ?_⟩
    intro window
    obtain ⟨frame, built, sameTs, _⟩ :=
      buildFrame_push library window sample
    exact ⟨frame, built, sameTs.symm ▸ isPart⟩

end Frame

section Overflow

/-! A document of the required members. -/

def timestampDocument (ts : Document Rat) : Document Rat :=
  .object [
    ("ts_unix_ms", ts),
    ("link_id", .string "L1"),
    ("osnr_db", .float (.finite (184 / 10))),
    ("ber", .float (.finite (12 / 10 ^ 7))),
    ("laser_bias_ma", .float (.finite (421 / 10)))]

def timestampSample (tsUnixMs : Int) : Sample Rat where
  tsUnixMs := tsUnixMs
  linkId := "L1"
  channelId := "C1"
  osnrDb := 184 / 10
  ber := 12 / 10 ^ 7
  laserBiasMa := 421 / 10
  edfaPumpMa := kEdfaPumpDefault
  rxPowerDbm := kRxPowerDefault

/-- Casts out of range yield what they do on x86-64. -/
def timestampLibrary : IngestLibrary Rat where
  parse _ := none
  log10 _ := -6
  sqrt value := value
  castOutOfRange _ := -2 ^ 63

/-- The timestamp of the README, an integer in milliseconds. -/
theorem timestampSurvives_iff_fits_readme :
    TimestampSurvives timestampLibrary
      (timestampDocument
        (.integer ⟨1710000000000, by decide, by decide⟩))
      (timestampSample 1710000000000) := by
  have accepted :
      validateSample timestampLibrary
          (timestampDocument
            (.integer ⟨1710000000000, by decide, by decide⟩)).read
          Sample.initial =
        (timestampSample 1710000000000, .ok ()) := by
    decide +kernel
  have fits : ulp 1710000000000 ∣ 1710000000000 := by
    decide +kernel
  exact (timestampSurvives_iff_fits accepted).mpr
    ⟨_, rfl, by decide, fits⟩

/-- A timestamp of `1e19` is accepted and does not fit the cast. -/
theorem late_timestamp_overflows :
    ¬ ∀ (document : Document Rat) (out sample : Sample Rat),
      validateSample timestampLibrary document.read out =
          (sample, .ok ()) →
        TimestampSurvives timestampLibrary document sample := by
  intro survives
  have accepted :
      validateSample timestampLibrary
          (timestampDocument (.float (.finite (10 ^ 19)))).read
          Sample.initial =
        (timestampSample (-2 ^ 63), .ok ()) := by
    decide +kernel
  obtain ⟨number, raw, found, isRaw, fits, _⟩ :=
    survives _ _ _ accepted
  obtain rfl : .float (.finite (10 ^ 19)) = number :=
    Option.some.inj found
  obtain rfl : 10 ^ 19 = raw := by
    simpa [read] using isRaw
  revert fits
  decide +kernel

end Overflow

end Document

end OpticsSoftfail
