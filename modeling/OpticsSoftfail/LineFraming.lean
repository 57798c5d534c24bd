import Mathlib.Data.List.Basic

namespace OpticsSoftfail

/-!
# Framing a stream into lines

A stream of symbols is cut at every separator into complete lines and an
unterminated rest.  A reader gets the stream in chunks, so it sees each line as
a sequence of pieces.  The rules below join the two views, and describe a reader
that gives up on a line once too much of it has piled up at the end of a chunk.
-/

namespace LineFraming

variable {Symbol : Type}

/-- The complete lines of a stream, and what follows the last separator. -/
structure Framed (Symbol : Type) where
  complete : List (List Symbol)
  rest : List Symbol
  deriving Repr, DecidableEq

/-- What is framed so far, continued by what comes next. -/
def Framed.append
    (first second : Framed Symbol) : Framed Symbol :=
  match second.complete with
  | [] => ⟨first.complete, first.rest ++ second.rest⟩
  | line :: others =>
      ⟨first.complete ++ (first.rest ++ line) :: others, second.rest⟩

@[simp] theorem Framed.empty_append (framed : Framed Symbol) :
    Framed.append ⟨[], []⟩ framed = framed := by
  rcases framed with ⟨complete, rest⟩
  cases complete <;> rfl

theorem Framed.append_assoc
    (first second third : Framed Symbol) :
    (first.append second).append third =
      first.append (second.append third) := by
  rcases second with ⟨secondComplete, secondRest⟩
  rcases third with ⟨thirdComplete, thirdRest⟩
  cases secondComplete <;> cases thirdComplete <;>
    simp [Framed.append]

/-- The complete lines of the first part stay as they are. -/
theorem Framed.append_eq
    (first second : Framed Symbol) :
    first.append second =
      ⟨first.complete ++
          (Framed.append ⟨[], first.rest⟩ second).complete,
        (Framed.append ⟨[], first.rest⟩ second).rest⟩ := by
  rcases second with ⟨complete, rest⟩
  cases complete <;> simp [Framed.append]

/-- Cut a stream at the separators. -/
def frame
    [DecidableEq Symbol]
    (separator : Symbol) : List Symbol → Framed Symbol
  | [] => ⟨[], []⟩
  | symbol :: later =>
      if symbol = separator then
        ⟨[] :: (frame separator later).complete,
          (frame separator later).rest⟩
      else
        Framed.append ⟨[], [symbol]⟩ (frame separator later)

section Frame

variable [DecidableEq Symbol] {separator : Symbol}

/-- A stream without separators is one unterminated line. -/
theorem frame_of_not_mem
    {stream : List Symbol}
    (absent : separator ∉ stream) :
    frame separator stream = ⟨[], stream⟩ := by
  induction stream with
  | nil =>
      rfl
  | cons symbol later inductionHypothesis =>
      have different : separator ≠ symbol :=
        List.ne_of_not_mem_cons absent
      have laterAbsent : separator ∉ later :=
        List.not_mem_of_not_mem_cons absent
      rw [frame, if_neg (Ne.symm different),
        inductionHypothesis laterAbsent]
      rfl

/-- Framing the parts of a stream frames the stream. -/
theorem frame_append (first second : List Symbol) :
    frame separator (first ++ second) =
      (frame separator first).append (frame separator second) := by
  induction first with
  | nil =>
      simp [frame]
  | cons symbol later inductionHypothesis =>
      by_cases isSeparator : symbol = separator
      · rw [List.cons_append, frame, if_pos isSeparator,
          inductionHypothesis, frame, if_pos isSeparator]
        rcases frame separator second with ⟨complete, rest⟩
        cases complete <;> simp [Framed.append]
      · rw [List.cons_append, frame, if_neg isSeparator,
          inductionHypothesis, frame, if_neg isSeparator,
          Framed.append_assoc]

/-- A line in front of a separator is the first complete line. -/
theorem frame_append_separator
    {line : List Symbol}
    (absent : separator ∉ line)
    (later : List Symbol) :
    frame separator (line ++ separator :: later) =
      ⟨line :: (frame separator later).complete,
        (frame separator later).rest⟩ := by
  rw [frame_append, frame_of_not_mem absent, frame, if_pos rfl]
  simp [Framed.append]

/-- Separated lines are framed as they are. -/
theorem frame_flatMap_separator
    {lines : List (List Symbol)}
    {tail : List Symbol}
    (plain : ∀ line ∈ lines, separator ∉ line)
    (plainTail : separator ∉ tail) :
    frame separator
        (lines.flatMap (fun line => line ++ [separator]) ++ tail) =
      ⟨lines, tail⟩ := by
  induction lines with
  | nil =>
      exact frame_of_not_mem plainTail
  | cons line rest inductionHypothesis =>
      obtain ⟨plainLine, plainRest⟩ := List.forall_mem_cons.mp plain
      rw [List.flatMap_cons, List.append_assoc, List.append_assoc,
        List.singleton_append, frame_append_separator plainLine,
        inductionHypothesis plainRest]

/-- The unterminated rest holds no separator. -/
theorem not_mem_rest (stream : List Symbol) :
    separator ∉ (frame separator stream).rest := by
  induction stream with
  | nil =>
      simp [frame]
  | cons symbol later inductionHypothesis =>
      by_cases isSeparator : symbol = separator
      · rw [frame, if_pos isSeparator]
        exact inductionHypothesis
      · rw [frame, if_neg isSeparator]
        rcases framed : frame separator later with ⟨complete, rest⟩
        rw [framed] at inductionHypothesis
        cases complete with
        | nil =>
            intro member
            rcases List.mem_cons.mp member with isSymbol | inRest
            · exact isSeparator isSymbol.symm
            · exact inductionHypothesis inRest
        | cons line others =>
            exact inductionHypothesis

/-- Framing is splitting at the separator. -/
theorem complete_append_rest_eq_splitOn (stream : List Symbol) :
    (frame separator stream).complete ++
        [(frame separator stream).rest] =
      stream.splitOn separator := by
  induction stream with
  | nil =>
      rfl
  | cons symbol later inductionHypothesis =>
      rw [List.splitOn_cons_eq_if_modifyHead, ← inductionHypothesis]
      by_cases isSeparator : symbol = separator
      · simp [frame, isSeparator]
      · rw [frame, if_neg isSeparator]
        rcases frame separator later with ⟨complete, rest⟩
        cases complete <;> simp [Framed.append, isSeparator]

end Frame

/-- A complete line as its reader saw it: the last piece has the separator. -/
structure CutLine (Symbol : Type) where
  earlier : List (List Symbol)
  last : List Symbol
  deriving Repr, DecidableEq

/-- The line itself. -/
def CutLine.whole (line : CutLine Symbol) : List Symbol :=
  line.earlier.flatten ++ line.last

/-- The complete lines of a cut stream, and the pieces after the last one. -/
structure CutFramed (Symbol : Type) where
  complete : List (CutLine Symbol)
  rest : List (List Symbol)
  deriving Repr, DecidableEq

/-- Follow the lines through the chunks; `rest` are the pieces so far. -/
def cutFrame
    [DecidableEq Symbol]
    (separator : Symbol) :
    List (List Symbol) → List (List Symbol) → CutFramed Symbol
  | rest, [] => ⟨[], rest⟩
  | rest, chunk :: later =>
      let framed := frame separator chunk
      match framed.complete with
      | [] => cutFrame separator (rest ++ [framed.rest]) later
      | line :: others =>
          let cut := cutFrame separator [framed.rest] later
          ⟨⟨rest, line⟩ :: others.map (fun other => ⟨[], other⟩) ++
              cut.complete,
            cut.rest⟩

/-- Pieced together, the cut lines are the lines of the whole stream. -/
theorem cutFrame_whole
    [DecidableEq Symbol]
    (separator : Symbol)
    (rest chunks : List (List Symbol)) :
    Framed.append ⟨[], rest.flatten⟩
        (frame separator chunks.flatten) =
      ⟨(cutFrame separator rest chunks).complete.map CutLine.whole,
        (cutFrame separator rest chunks).rest.flatten⟩ := by
  induction chunks generalizing rest with
  | nil =>
      simp [frame, Framed.append, cutFrame]
  | cons chunk later inductionHypothesis =>
      rw [List.flatten_cons, frame_append, cutFrame]
      rcases framed : frame separator chunk with ⟨complete, tail⟩
      cases complete with
      | nil =>
          simp only
          rw [← inductionHypothesis, ← Framed.append_assoc]
          simp [Framed.append]
      | cons line others =>
          have continued := inductionHypothesis [tail]
          simp only [List.flatten_cons, List.flatten_nil,
            List.append_nil] at continued
          rw [Framed.append_eq ⟨line :: others, tail⟩]
          simp only
          rw [continued]
          simp [Framed.append, CutLine.whole, Function.comp_def]

/-- Chunks without separator are pieces of the line in progress. -/
theorem cutFrame_replicate
    [DecidableEq Symbol]
    {separator : Symbol}
    {chunk : List Symbol}
    (absent : separator ∉ chunk)
    (count : Nat)
    (rest later : List (List Symbol)) :
    cutFrame separator rest (List.replicate count chunk ++ later) =
      cutFrame separator (rest ++ List.replicate count chunk) later := by
  induction count generalizing rest with
  | zero =>
      simp
  | succ count inductionHypothesis =>
      rw [List.replicate_succ, List.cons_append, cutFrame,
        frame_of_not_mem absent]
      simp only
      rw [inductionHypothesis, List.append_assoc, List.singleton_append]

section Guard

/-! ## A reader that gives up on a line -/

/-- What the reader holds after one more piece. -/
def keep
    (limit : Nat)
    (held piece : List Symbol) : List Symbol :=
  if limit < (held ++ piece).length then [] else held ++ piece

/-- What the reader holds after the pieces. -/
def kept
    (limit : Nat)
    (held : List Symbol)
    (pieces : List (List Symbol)) : List Symbol :=
  pieces.foldl (keep limit) held

theorem kept_append_singleton
    (limit : Nat)
    (held : List Symbol)
    (pieces : List (List Symbol))
    (piece : List Symbol) :
    kept limit held (pieces ++ [piece]) =
      keep limit (kept limit held pieces) piece := by
  simp [kept]

/-- The reader holds nothing but symbols of the pieces. -/
theorem mem_kept
    {limit : Nat}
    {held : List Symbol}
    {pieces : List (List Symbol)}
    {symbol : Symbol}
    (member : symbol ∈ kept limit held pieces) :
    symbol ∈ held ∨ ∃ piece ∈ pieces, symbol ∈ piece := by
  induction pieces generalizing held with
  | nil =>
      exact Or.inl member
  | cons piece later inductionHypothesis =>
      rcases inductionHypothesis member with inKept | inLater
      · rw [keep] at inKept
        split at inKept
        · simp at inKept
        · rcases List.mem_append.mp inKept with inHeld | inPiece
          · exact Or.inl inHeld
          · exact Or.inr ⟨piece, List.mem_cons_self, inPiece⟩
      · obtain ⟨other, isLater, inOther⟩ := inLater
        exact Or.inr ⟨other, List.mem_cons_of_mem _ isLater, inOther⟩

/-- At the end of one of the pieces more than the limit has piled up. -/
def overruns (limit : Nat) :
    List Symbol → List (List Symbol) → Bool
  | _, [] => false
  | held, piece :: later =>
      decide (limit < (held ++ piece).length) ||
        overruns limit (keep limit held piece) later

/-- What the reader takes for the line when the separator arrives. -/
def CutLine.residue
    (limit : Nat)
    (line : CutLine Symbol) : List Symbol :=
  kept limit [] line.earlier ++ line.last

/-- The reader gave up on the line at least once. -/
def CutLine.overrun (limit : Nat) (line : CutLine Symbol) : Bool :=
  overruns limit [] line.earlier

/-- Without an overrun nothing is lost. -/
theorem kept_of_not_overruns
    {limit : Nat}
    {held : List Symbol}
    {pieces : List (List Symbol)}
    (within : overruns limit held pieces = false) :
    kept limit held pieces = held ++ pieces.flatten := by
  induction pieces generalizing held with
  | nil =>
      simp [kept]
  | cons piece later inductionHypothesis =>
      obtain ⟨fits, laterWithin⟩ := Bool.or_eq_false_iff.mp within
      have keeps : keep limit held piece = held ++ piece := by
        rw [keep, if_neg (of_decide_eq_false fits)]
      rw [keeps] at laterWithin
      have later := inductionHypothesis laterWithin
      rw [kept, List.foldl_cons, keeps]
      rw [kept] at later
      rw [later, List.flatten_cons, List.append_assoc]

theorem CutLine.residue_of_not_overrun
    {limit : Nat}
    {line : CutLine Symbol}
    (within : line.overrun limit = false) :
    line.residue limit = line.whole := by
  rw [residue, kept_of_not_overruns within, whole, List.nil_append]

/-- A line within the limit is never overrun. -/
theorem not_overruns_of_length_le
    {limit : Nat}
    {held : List Symbol}
    {pieces : List (List Symbol)}
    (short : (held ++ pieces.flatten).length ≤ limit) :
    overruns limit held pieces = false := by
  induction pieces generalizing held with
  | nil =>
      rfl
  | cons piece later inductionHypothesis =>
      rw [List.flatten_cons, ← List.append_assoc] at short
      have fits : ¬ limit < (held ++ piece).length := by
        rw [List.length_append] at short
        omega
      have keeps : keep limit held piece = held ++ piece := by
        rw [keep, if_neg fits]
      rw [overruns, keeps, inductionHypothesis short,
        decide_eq_false fits]
      rfl

/-- The chunk that reaches beyond the limit empties the reader. -/
theorem kept_replicate_overrun
    {limit count : Nat}
    {chunk : List Symbol}
    (fits : count * chunk.length ≤ limit)
    (exceeds : limit < (count + 1) * chunk.length) :
    kept limit [] (List.replicate (count + 1) chunk) = [] := by
  have length :
      (List.replicate count chunk).flatten.length =
        count * chunk.length := by
    simp
  have within : overruns limit [] (List.replicate count chunk) = false := by
    apply not_overruns_of_length_le
    rw [List.nil_append, length]
    exact fits
  rw [List.replicate_succ', kept_append_singleton,
    kept_of_not_overruns within, keep, if_pos]
  rw [List.nil_append, List.length_append, length, ← Nat.succ_mul]
  exact exceeds

end Guard

end LineFraming

end OpticsSoftfail
