import OpticsSoftfail.Transition

namespace OpticsSoftfail

/-!
# JSON texts

A recogniser of JSON documents that reads one character at a time and keeps the
stack of open containers.  It accepts the grammar of Python's decoder: the
standard one, with `NaN`, `Infinity` and `-Infinity` as further numbers.  What
matters below is when a text is cut short: an object is not accepted before its
last bracket.
-/

namespace JsonText

/-- An open container. -/
inductive Container where
  | object
  | array
  deriving Repr, DecidableEq

/-- What has been read of the innermost construct. -/
inductive Mode where
  /-- A value has to follow. -/
  | value
  /-- A value or `]` has to follow. -/
  | firstItem
  /-- A key or `}` has to follow. -/
  | firstKey
  /-- A key has to follow. -/
  | key
  /-- A colon has to follow. -/
  | colon
  | string (isKey : Bool)
  | escape (isKey : Bool)
  /-- After `\u`, with so many further hexadecimal digits to come. -/
  | unicode (isKey : Bool) (further : Nat)
  /-- Within a literal, with these characters to come. -/
  | literal (next : Char) (further : List Char)
  | minus
  | zero
  | integer
  | point
  | fraction
  | exponent
  | exponentSign
  | exponentDigits
  /-- A value is complete. -/
  | after
  deriving Repr, DecidableEq

/-- The mode and the open containers, innermost first. -/
structure State where
  mode : Mode
  stack : List Container
  deriving Repr, DecidableEq

/-- Before the first character. -/
def start : State where
  mode := .value
  stack := []

/-- JSON whitespace. -/
def isWhitespace (char : Char) : Bool :=
  char = ' ' || char = '\t' || char = '\n' || char = '\r'

def isDigit (char : Char) : Bool :=
  '0' ≤ char && char ≤ '9'

def isHexDigit (char : Char) : Bool :=
  isDigit char || ('a' ≤ char && char ≤ 'f') ||
    ('A' ≤ char && char ≤ 'F')

/-- The characters that may follow a backslash, other than `u`. -/
def isSimpleEscape (char : Char) : Bool :=
  char ∈ ['"', '\\', '/', 'b', 'f', 'n', 'r', 't']

/-- The first character of a literal. -/
def openLiteral (stack : List Container) (char : Char) : Option State :=
  if char = 't' then some ⟨.literal 'r' ['u', 'e'], stack⟩
  else if char = 'f' then some ⟨.literal 'a' ['l', 's', 'e'], stack⟩
  else if char = 'n' then some ⟨.literal 'u' ['l', 'l'], stack⟩
  else if char = 'N' then some ⟨.literal 'a' ['N'], stack⟩
  else if char = 'I' then
    some ⟨.literal 'n' ['f', 'i', 'n', 'i', 't', 'y'], stack⟩
  else none

/-- The first character of a value. -/
def openValue (stack : List Container) (char : Char) : Option State :=
  if isWhitespace char then some ⟨.value, stack⟩
  else if char = '"' then some ⟨.string false, stack⟩
  else if char = '\x7b' then some ⟨.firstKey, .object :: stack⟩
  else if char = '[' then some ⟨.firstItem, .array :: stack⟩
  else if char = '-' then some ⟨.minus, stack⟩
  else if char = '0' then some ⟨.zero, stack⟩
  else if isDigit char then some ⟨.integer, stack⟩
  else openLiteral stack char

/-- The first character of a key. -/
def openKey
    (mode : Mode)
    (stack : List Container)
    (char : Char) : Option State :=
  if isWhitespace char then some ⟨mode, stack⟩
  else if char = '"' then some ⟨.string true, stack⟩
  else none

/-- A character after a complete value. -/
def afterValue (stack : List Container) (char : Char) : Option State :=
  if isWhitespace char then some ⟨.after, stack⟩
  else
    match stack with
    | [] => none
    | .object :: outer =>
        if char = ',' then some ⟨.key, stack⟩
        else if char = '\x7d' then some ⟨.after, outer⟩
        else none
    | .array :: outer =>
        if char = ',' then some ⟨.value, stack⟩
        else if char = ']' then some ⟨.after, outer⟩
        else none

/-- Read one character, if the document may go on with it. -/
def step? (state : State) (char : Char) : Option State :=
  let stack := state.stack
  match state.mode with
  | .value => openValue stack char
  | .firstItem =>
      if isWhitespace char then some ⟨.firstItem, stack⟩
      else if char = ']' then some ⟨.after, stack.tail⟩
      else openValue stack char
  | .firstKey =>
      if char = '\x7d' then some ⟨.after, stack.tail⟩
      else openKey .firstKey stack char
  | .key => openKey .key stack char
  | .colon =>
      if isWhitespace char then some ⟨.colon, stack⟩
      else if char = ':' then some ⟨.value, stack⟩
      else none
  | .string isKey =>
      if char = '"' then
        some ⟨if isKey then .colon else .after, stack⟩
      else if char = '\\' then some ⟨.escape isKey, stack⟩
      else if char < ' ' then none
      else some ⟨.string isKey, stack⟩
  | .escape isKey =>
      if isSimpleEscape char then some ⟨.string isKey, stack⟩
      else if char = 'u' then some ⟨.unicode isKey 3, stack⟩
      else none
  | .unicode isKey further =>
      if isHexDigit char then
        match further with
        | 0 => some ⟨.string isKey, stack⟩
        | further + 1 => some ⟨.unicode isKey further, stack⟩
      else none
  | .literal next further =>
      if char = next then
        match further with
        | [] => some ⟨.after, stack⟩
        | following :: rest => some ⟨.literal following rest, stack⟩
      else none
  | .minus =>
      if char = '0' then some ⟨.zero, stack⟩
      else if isDigit char then some ⟨.integer, stack⟩
      else if char = 'I' then
        some ⟨.literal 'n' ['f', 'i', 'n', 'i', 't', 'y'], stack⟩
      else none
  | .zero =>
      if char = '.' then some ⟨.point, stack⟩
      else if char = 'e' || char = 'E' then some ⟨.exponent, stack⟩
      else afterValue stack char
  | .integer =>
      if isDigit char then some ⟨.integer, stack⟩
      else if char = '.' then some ⟨.point, stack⟩
      else if char = 'e' || char = 'E' then some ⟨.exponent, stack⟩
      else afterValue stack char
  | .point => if isDigit char then some ⟨.fraction, stack⟩ else none
  | .fraction =>
      if isDigit char then some ⟨.fraction, stack⟩
      else if char = 'e' || char = 'E' then some ⟨.exponent, stack⟩
      else afterValue stack char
  | .exponent =>
      if char = '+' || char = '-' then some ⟨.exponentSign, stack⟩
      else if isDigit char then some ⟨.exponentDigits, stack⟩
      else none
  | .exponentSign =>
      if isDigit char then some ⟨.exponentDigits, stack⟩ else none
  | .exponentDigits =>
      if isDigit char then some ⟨.exponentDigits, stack⟩
      else afterValue stack char
  | .after => afterValue stack char

/-- The document may end here. -/
def State.accepting (state : State) : Bool :=
  state.stack.isEmpty &&
    match state.mode with
    | .after | .zero | .integer | .fraction | .exponentDigits => true
    | _ => false

/-- The text is a JSON document. -/
def accepts (text : List Char) : Bool :=
  match Transition.run? step? start text with
  | some state => state.accepting
  | none => false

/-- Outside of all containers only complete values are reached. -/
def State.Enclosed (state : State) : Prop :=
  state.stack = [] → state.mode = .after

/-- A text that is one object, without whitespace around it. -/
structure IsObject (text : List Char) : Prop where
  accepted : accepts text = true
  opened : text.head? = some '\x7b'
  closed : text.getLast? = some '\x7d'

section Enclosed

variable {state next : State} {char : Char} {stack : List Container}

theorem openLiteral_stack
    (opens : openLiteral stack char = some next) :
    next.stack = stack := by
  simp only [openLiteral] at opens
  grind

/-- The first character of a value keeps the open containers open. -/
theorem openValue_ne_nil
    (nonempty : stack ≠ [])
    (opens : openValue stack char = some next) :
    next.stack ≠ [] := by
  have literal : openLiteral stack char = some next →
      next.stack = stack :=
    openLiteral_stack
  simp only [openValue] at opens
  grind

theorem openKey_stack
    {mode : Mode}
    (opens : openKey mode stack char = some next) :
    next.stack = stack := by
  simp only [openKey] at opens
  grind

/-- After a value nothing but a complete value can lie outside. -/
theorem afterValue_enclosed
    (reads : afterValue stack char = some next) :
    next.Enclosed := by
  intro empty
  simp only [afterValue] at reads
  grind

/-- Within a container every character leads to an enclosed state. -/
theorem step?_enclosed
    (enclosed : state.Enclosed)
    (stepped : step? state char = some next) :
    next.Enclosed := by
  rcases state with ⟨mode, stack⟩
  have inside (isOpen : mode ≠ .after) : stack ≠ [] :=
    fun empty => isOpen (enclosed empty)
  have opened : stack ≠ [] → openValue stack char = some next →
      next.stack ≠ [] :=
    openValue_ne_nil
  have keyed (mode : Mode) : openKey mode stack char = some next →
      next.stack = stack :=
    openKey_stack
  have ended : afterValue stack char = some next → next.Enclosed :=
    afterValue_enclosed
  cases mode with
  | after =>
      exact ended stepped
  | _ =>
      have nonempty := inside (by simp)
      simp only [step?] at stepped
      intro empty
      grind [State.Enclosed]

theorem afterValue_replacement (stack : List Container) :
    afterValue stack '\uFFFD' = none := by
  rcases stack with _ | ⟨container, outer⟩
  · rfl
  · cases container <;> rfl

/-- The replacement character is never a bracket. -/
theorem step?_replacement_stack
    (stepped : step? state '\uFFFD' = some next) :
    next.stack = state.stack := by
  rcases state with ⟨mode, stack⟩
  cases mode with
  | string isKey =>
      have isNext : (⟨.string isKey, stack⟩ : State) = next :=
        Option.some.inj stepped
      rw [← isNext]
  | literal expected further =>
      simp only [step?] at stepped
      grind
  | _ =>
      simp [step?, openValue, openLiteral, openKey,
        afterValue_replacement, isWhitespace, isDigit, isHexDigit,
        isSimpleEscape] at stepped

/-- A run within a container leads to an enclosed state. -/
theorem run?_enclosed
    {text : List Char}
    (enclosed : state.Enclosed)
    (ran : Transition.run? step? state text = some next) :
    next.Enclosed :=
  Transition.run?_invariant step?_enclosed enclosed ran

/-- After a document only whitespace may follow. -/
theorem isWhitespace_of_run?_after
    {text : List Char}
    (ran : Transition.run? step? ⟨.after, []⟩ text = some next) :
    ∀ char ∈ text, isWhitespace char = true := by
  induction text with
  | nil =>
      simp
  | cons first later inductionHypothesis =>
      obtain ⟨middle, stepped, continued⟩ :=
        Transition.run?_cons_eq_some_iff.mp ran
      have reads : isWhitespace first = true ∧
          (⟨.after, []⟩ : State) = middle := by
        simpa [step?, afterValue] using stepped
      rw [← reads.2] at continued
      exact List.forall_mem_cons.mpr
        ⟨reads.1, inductionHypothesis continued⟩

end Enclosed

section Prefixes

/-! ## An object that is cut short -/

variable {first later : List Char}

/-- The text from some bracket on is not outside of all containers. -/
theorem stack_ne_nil_of_run?
    {state final : State}
    (enclosed : state.Enclosed)
    (ran : Transition.run? step? state later = some final)
    (closed : later.getLast? = some '\x7d') :
    state.stack ≠ [] := by
  intro empty
  rcases state with ⟨mode, stack⟩
  have isAfter : mode = .after := enclosed empty
  have isEmpty : stack = [] := empty
  rw [isAfter, isEmpty] at ran
  have blank := isWhitespace_of_run?_after ran '\x7d'
    (List.mem_of_getLast? closed)
  simp [isWhitespace] at blank

/-- Within an object's text the object is still open. -/
theorem IsObject.stack_ne_nil
    (object : IsObject (first ++ later))
    (begun : first ≠ [])
    (cut : later ≠ []) :
    ∃ state,
      Transition.run? step? start first = some state ∧
        state.stack ≠ [] := by
  rcases object with ⟨accepted, opened, closed⟩
  rcases first with _ | ⟨bracket, rest⟩
  · exact absurd rfl begun
  obtain rfl : bracket = '\x7b' := Option.some.inj opened
  rw [accepts, Transition.run?_append] at accepted
  cases ran : Transition.run? step? start ('\x7b' :: rest) with
  | none =>
      simp [ran] at accepted
  | some state =>
      refine ⟨state, rfl, ?_⟩
      have opening : State.Enclosed ⟨.firstKey, [.object]⟩ := by
        simp [State.Enclosed]
      have enclosed : state.Enclosed := run?_enclosed opening ran
      cases continued : Transition.run? step? state later with
      | none =>
          simp [ran, continued] at accepted
      | some final =>
          rw [List.getLast?_append_of_ne_nil _ cut] at closed
          exact stack_ne_nil_of_run? enclosed continued closed

/-- An object is not accepted before its last bracket. -/
theorem IsObject.not_accepts_prefix
    (object : IsObject (first ++ later))
    (cut : later ≠ []) :
    accepts first = false := by
  by_cases begun : first = []
  · rw [begun]
    rfl
  · obtain ⟨state, ran, isOpen⟩ := object.stack_ne_nil begun cut
    simp [accepts, ran, State.accepting, isOpen]

/-- Nor with a replacement character in place of what was cut off. -/
theorem IsObject.not_accepts_prefix_replacement
    (object : IsObject (first ++ later))
    (cut : later ≠ []) :
    accepts (first ++ ['\uFFFD']) = false := by
  by_cases begun : first = []
  · rw [begun]
    rfl
  · obtain ⟨state, ran, isOpen⟩ := object.stack_ne_nil begun cut
    rw [accepts, Transition.run?_append, ran]
    cases stepped : step? state '\uFFFD' with
    | none =>
        simp [Transition.run?, stepped]
    | some next =>
        have stillOpen : next.stack ≠ [] := by
          rw [step?_replacement_stack stepped]
          exact isOpen
        simp [Transition.run?, stepped, State.accepting, stillOpen]

end Prefixes

end JsonText

end OpticsSoftfail
