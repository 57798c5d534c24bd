import Mathlib.Data.List.Basic

namespace OpticsSoftfail

/-!
# UTF-8

The encoding of a text, and the decoder that puts a replacement character where
the bytes are malformed.  The decoder reads one byte at a time; a sequence that
breaks off is replaced as a whole, and the byte that broke it is read afresh.
The rules below are about encoded texts, whole or cut between any two bytes.
-/

namespace Utf8

/-- The bytes of a text. -/
def encode (text : List Char) : List UInt8 :=
  text.flatMap String.utf8EncodeChar

@[simp] theorem encode_cons (char : Char) (text : List Char) :
    encode (char :: text) = String.utf8EncodeChar char ++ encode text :=
  List.flatMap_cons

/-- What stands for malformed bytes. -/
def replacement : Char :=
  '\uFFFD'

/-- A sequence in progress. -/
structure Pending where
  /-- The number of bytes to come after the next one. -/
  further : Nat
  /-- The least next byte. -/
  low : Nat
  /-- The greatest next byte. -/
  high : Nat
  value : Nat
  deriving Repr, DecidableEq

/-- The first byte of a sequence. -/
def begin (byte : UInt8) : List Char × Option Pending :=
  let number := byte.toNat
  if number < 0x80 then ([Char.ofNat number], none)
  else if number < 0xC2 then ([replacement], none)
  else if number < 0xE0 then
    ([], some ⟨0, 0x80, 0xBF, number - 0xC0⟩)
  else if number < 0xF0 then
    -- no overlong forms, and no surrogates
    ([], some ⟨1, if number = 0xE0 then 0xA0 else 0x80,
      if number = 0xED then 0x9F else 0xBF, number - 0xE0⟩)
  else if number < 0xF5 then
    -- no overlong forms, and nothing beyond the last code point
    ([], some ⟨2, if number = 0xF0 then 0x90 else 0x80,
      if number = 0xF4 then 0x8F else 0xBF, number - 0xF0⟩)
  else ([replacement], none)

/-- Read one byte: the characters it completes and the new sequence. -/
def step (pending : Option Pending) (byte : UInt8) :
    List Char × Option Pending :=
  match pending with
  | none => begin byte
  | some ⟨further, low, high, value⟩ =>
      if low ≤ byte.toNat ∧ byte.toNat ≤ high then
        let extended := 64 * value + (byte.toNat - 0x80)
        match further with
        | 0 => ([Char.ofNat extended], none)
        | further + 1 => ([], some ⟨further, 0x80, 0xBF, extended⟩)
      else
        (replacement :: (begin byte).1, (begin byte).2)

/-- Decode the bytes that follow a sequence in progress. -/
def decodeFrom : Option Pending → List UInt8 → List Char
  | none, [] => []
  | some _, [] => [replacement]
  | pending, byte :: later =>
      (step pending byte).1 ++ decodeFrom (step pending byte).2 later

/-- `bytes.decode("utf-8", errors="replace")`. -/
def decode (bytes : List UInt8) : List Char :=
  decodeFrom none bytes

/-- From here on the bytes complete the character, and not before the last. -/
inductive Spells (char : Char) : Option Pending → List UInt8 → Prop
  | last {pending byte} :
      step pending byte = ([char], none) →
      Spells char pending [byte]
  | more {pending byte next later} :
      step pending byte = ([], some next) →
      Spells char (some next) later →
      Spells char pending (byte :: later)

section Spells

variable {char : Char} {pending : Option Pending} {bytes : List UInt8}

/-- A spelled character is decoded, whatever follows. -/
theorem Spells.decodeFrom_append
    (spells : Spells char pending bytes)
    (later : List UInt8) :
    decodeFrom pending (bytes ++ later) = char :: decode later := by
  induction spells with
  | last stepped =>
      simp [decodeFrom, stepped, decode]
  | more stepped _ inductionHypothesis =>
      simp [decodeFrom, stepped, inductionHypothesis]

/-- A character that is cut short is replaced. -/
theorem Spells.decodeFrom_prefix
    (spells : Spells char pending bytes)
    {first later : List UInt8}
    (split : first ++ later = bytes)
    (cut : later ≠ [])
    (begun : pending = none → first ≠ []) :
    decodeFrom pending first = [replacement] := by
  induction spells generalizing first with
  | @last pending byte stepped =>
      have empty : first = [] := by
        have lengths := congrArg List.length split
        have positive := List.length_pos_of_ne_nil cut
        rw [List.length_append, List.length_singleton] at lengths
        exact List.eq_nil_of_length_eq_zero (by omega)
      subst empty
      cases pending with
      | none =>
          exact absurd rfl (begun rfl)
      | some sequence =>
          rfl
  | @more pending byte next rest stepped _ inductionHypothesis =>
      cases first with
      | nil =>
          cases pending with
          | none =>
              exact absurd rfl (begun rfl)
          | some sequence =>
              rfl
      | cons head tail =>
          obtain ⟨rfl, splitLater⟩ := List.cons.inj split
          rw [decodeFrom, stepped]
          exact inductionHypothesis splitLater (by simp)

end Spells

section Sequences

/-! ## The sequences of the encoding -/

theorem toNat_ofNat
    {number : Nat}
    (small : number < 256) :
    (UInt8.ofNat number).toNat = number := by
  simp [Nat.mod_eq_of_lt small]

theorem begin_single
    {value : Nat}
    (small : value < 0x80) :
    begin (UInt8.ofNat value) = ([Char.ofNat value], none) := by
  rw [begin, toNat_ofNat (by omega), if_pos small]

theorem begin_double
    {lead : Nat}
    (shortest : 2 ≤ lead)
    (small : lead < 32) :
    begin (UInt8.ofNat (lead + 0xC0)) =
      ([], some ⟨0, 0x80, 0xBF, lead⟩) := by
  have number := toNat_ofNat (show lead + 0xC0 < 256 by omega)
  rw [begin, number, if_neg (by omega), if_neg (by omega),
    if_pos (by omega), Nat.add_sub_cancel]

theorem begin_triple
    {lead : Nat}
    (small : lead < 16) :
    begin (UInt8.ofNat (lead + 0xE0)) =
      ([], some ⟨1, if lead = 0 then 0xA0 else 0x80,
        if lead = 13 then 0x9F else 0xBF, lead⟩) := by
  have number := toNat_ofNat (show lead + 0xE0 < 256 by omega)
  have isFirst : lead + 0xE0 = 0xE0 ↔ lead = 0 := by omega
  have isSurrogate : lead + 0xE0 = 0xED ↔ lead = 13 := by omega
  rw [begin, number, if_neg (by omega), if_neg (by omega),
    if_neg (by omega), if_pos (by omega), Nat.add_sub_cancel]
  simp only [isFirst, isSurrogate]

theorem begin_quadruple
    {lead : Nat}
    (small : lead < 5) :
    begin (UInt8.ofNat (lead + 0xF0)) =
      ([], some ⟨2, if lead = 0 then 0x90 else 0x80,
        if lead = 4 then 0x8F else 0xBF, lead⟩) := by
  have number := toNat_ofNat (show lead + 0xF0 < 256 by omega)
  have isFirst : lead + 0xF0 = 0xF0 ↔ lead = 0 := by omega
  have isLast : lead + 0xF0 = 0xF4 ↔ lead = 4 := by omega
  rw [begin, number, if_neg (by omega), if_neg (by omega),
    if_neg (by omega), if_neg (by omega), if_pos (by omega),
    Nat.add_sub_cancel]
  simp only [isFirst, isLast]

/-- A continuation byte within the range extends the sequence. -/
theorem step_extend
    {further low high value digits : Nat}
    (small : digits < 64)
    (atLeast : low ≤ digits + 0x80)
    (atMost : digits + 0x80 ≤ high) :
    step (some ⟨further + 1, low, high, value⟩)
        (UInt8.ofNat (digits + 0x80)) =
      ([], some ⟨further, 0x80, 0xBF, 64 * value + digits⟩) := by
  have number := toNat_ofNat (show digits + 0x80 < 256 by omega)
  rw [step, number, if_pos ⟨atLeast, atMost⟩, Nat.add_sub_cancel]

/-- The last continuation byte completes the character. -/
theorem step_complete
    {low high value digits : Nat}
    (small : digits < 64)
    (atLeast : low ≤ digits + 0x80)
    (atMost : digits + 0x80 ≤ high) :
    step (some ⟨0, low, high, value⟩) (UInt8.ofNat (digits + 0x80)) =
      ([Char.ofNat (64 * value + digits)], none) := by
  have number := toNat_ofNat (show digits + 0x80 < 256 by omega)
  rw [step, number, if_pos ⟨atLeast, atMost⟩, Nat.add_sub_cancel]

theorem spells_double
    {value : Nat}
    (low : 0x80 ≤ value)
    (high : value < 0x800) :
    Spells (Char.ofNat value) none
      [UInt8.ofNat (value / 64 % 32 + 0xC0),
        UInt8.ofNat (value % 64 + 0x80)] := by
  have lead : value / 64 % 32 = value / 64 :=
    Nat.mod_eq_of_lt (by omega)
  rw [lead]
  refine .more (begin_double (by omega) (by omega)) (.last ?_)
  rw [step_complete (by omega) (by omega) (by omega),
    Nat.div_add_mod]

theorem spells_triple
    {value : Nat}
    (low : 0x800 ≤ value)
    (high : value < 0x10000)
    (scalar : value < 0xD800 ∨ 0xDFFF < value) :
    Spells (Char.ofNat value) none
      [UInt8.ofNat (value / 4096 % 16 + 0xE0),
        UInt8.ofNat (value / 64 % 64 + 0x80),
        UInt8.ofNat (value % 64 + 0x80)] := by
  have lead : value / 4096 % 16 = value / 4096 :=
    Nat.mod_eq_of_lt (by omega)
  rw [lead]
  refine .more (begin_triple (by omega))
    (.more (step_extend (by omega) ?_ ?_) (.last ?_))
  · split <;> omega
  · split <;> omega
  · rw [step_complete (by omega) (by omega) (by omega)]
    congr 3
    omega

theorem spells_quadruple
    {value : Nat}
    (low : 0x10000 ≤ value)
    (high : value < 0x110000) :
    Spells (Char.ofNat value) none
      [UInt8.ofNat (value / 262144 % 8 + 0xF0),
        UInt8.ofNat (value / 4096 % 64 + 0x80),
        UInt8.ofNat (value / 64 % 64 + 0x80),
        UInt8.ofNat (value % 64 + 0x80)] := by
  have lead : value / 262144 % 8 = value / 262144 :=
    Nat.mod_eq_of_lt (by omega)
  rw [lead]
  refine .more (begin_quadruple (by omega))
    (.more (step_extend (by omega) ?_ ?_)
      (.more (step_extend (by omega) (by omega) (by omega))
        (.last ?_)))
  · split <;> omega
  · split <;> omega
  · rw [step_complete (by omega) (by omega) (by omega)]
    congr 3
    omega

/-- The encoding of a character spells it. -/
theorem spells_utf8EncodeChar (char : Char) :
    Spells char none (String.utf8EncodeChar char) := by
  have valid : char.toNat < 0xD800 ∨
      0xDFFF < char.toNat ∧ char.toNat < 0x110000 :=
    char.valid
  have isChar : Char.ofNat char.toNat = char := Char.ofNat_toNat char
  rw [String.utf8EncodeChar]
  change Spells char none (if char.toNat ≤ 0x7F then _ else
    if char.toNat ≤ 0x7FF then _ else
    if char.toNat ≤ 0xFFFF then _ else _)
  nth_rewrite 1 [← isChar]
  by_cases single : char.toNat ≤ 0x7F
  · rw [if_pos single]
    exact .last (begin_single (Nat.lt_succ_of_le single))
  rw [if_neg single]
  by_cases double : char.toNat ≤ 0x7FF
  · rw [if_pos double]
    exact spells_double (by omega) (by omega)
  rw [if_neg double]
  by_cases triple : char.toNat ≤ 0xFFFF
  · rw [if_pos triple]
    exact spells_triple (by omega) (by omega) (by omega)
  · rw [if_neg triple]
    exact spells_quadruple (by omega) (by omega)

end Sequences

section Texts

/-! ## Encoded texts -/

/-- An encoded text is decoded, whatever follows. -/
theorem decode_encode_append
    (text : List Char)
    (later : List UInt8) :
    decode (encode text ++ later) = text ++ decode later := by
  induction text with
  | nil =>
      rfl
  | cons char rest inductionHypothesis =>
      have spelled := (spells_utf8EncodeChar char).decodeFrom_append
        (encode rest ++ later)
      rw [encode_cons, List.append_assoc, decode, spelled,
        inductionHypothesis, List.cons_append]

theorem decode_encode (text : List Char) :
    decode (encode text) = text := by
  have decoded := decode_encode_append text []
  rw [List.append_nil] at decoded
  rw [decoded]
  exact List.append_nil text

/--
The characters before some cut of the text, with a replacement for the
character that was cut, if one was.
-/
def IsCut (text decoded : List Char) : Prop :=
  ∃ first missing,
    text = first ++ missing ∧ missing ≠ [] ∧
      (decoded = first ∨ decoded = first ++ [replacement])

theorem IsCut.cons
    {text decoded : List Char}
    (isCut : IsCut text decoded)
    (char : Char) :
    IsCut (char :: text) (char :: decoded) := by
  obtain ⟨first, missing, rfl, notEmpty, plain | replaced⟩ := isCut
  · exact ⟨char :: first, missing, rfl, notEmpty,
      Or.inl (by rw [plain])⟩
  · exact ⟨char :: first, missing, rfl, notEmpty,
      Or.inr (by rw [replaced, List.cons_append])⟩

/-- The bytes up to some cut decode to the characters before it. -/
theorem decode_of_prefix
    {text : List Char}
    {bytes later : List UInt8}
    (split : bytes ++ later = encode text)
    (cut : later ≠ []) :
    IsCut text (decode bytes) := by
  induction text generalizing bytes with
  | nil =>
      exact absurd (List.append_eq_nil_iff.mp split).2 cut
  | cons char rest inductionHypothesis =>
      have spells := spells_utf8EncodeChar char
      have beyond {part : List UInt8}
          (isBytes : bytes = String.utf8EncodeChar char ++ part)
          (splitRest : part ++ later = encode rest) :
          IsCut (char :: rest) (decode bytes) := by
        rw [isBytes, decode, spells.decodeFrom_append]
        exact (inductionHypothesis splitRest).cons char
      rw [encode_cons, List.append_eq_append_iff] at split
      rcases split with ⟨part, isChar, isLater⟩ | ⟨part, isBytes, isRest⟩
      · by_cases ended : part = []
        · rw [ended, List.append_nil] at isChar
          rw [ended] at isLater
          have noneLeft : bytes =
              String.utf8EncodeChar char ++ [] := by
            rw [isChar, List.append_nil]
          exact beyond noneLeft isLater
        · refine ⟨[], char :: rest, rfl, List.cons_ne_nil _ _, ?_⟩
          by_cases begun : bytes = []
          · rw [begun]
            exact Or.inl rfl
          · exact Or.inr (spells.decodeFrom_prefix isChar.symm ended
              fun _ => begun)
      · exact beyond isBytes isRest.symm

end Texts

end Utf8

end OpticsSoftfail
