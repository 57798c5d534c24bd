import OpticsSoftfail.LineFraming

namespace OpticsSoftfail

/-!
# The line reader of the ingest

`JsonlServer::handle_client` reads from one client until the peer closes, an
error occurs or the server is stopped.  After every read it scans the pending
bytes for newlines, hands each line to the handler, keeps what follows the last
newline, and throws that away when it has grown beyond the runaway limit.
-/

/-- A line or a piece of one, as bytes. -/
abbrev Bytes := List UInt8

/-- `'\n'`. -/
def newline : UInt8 :=
  10

/-- `'\r'`. -/
def carriageReturn : UInt8 :=
  13

/-- `kReadBufferSize`. -/
def kReadBufferSize : Nat :=
  8192

/-- The size beyond which a line without newline is given up. -/
def runawayLimit : Nat :=
  1024 * 1024

/-- The bytes of one successful `recv` call. -/
structure Chunk where
  bytes : Bytes
  nonempty : bytes ≠ []
  fits : bytes.length ≤ kReadBufferSize

/-- The result of one `recv` call. -/
inductive RecvResult where
  | received (chunk : Chunk)
  /-- Zero: the peer has closed the connection. -/
  | closed
  /-- Negative, with `errno` set to `EINTR`. -/
  | interrupted
  /-- Negative, with any other `errno`. -/
  | failed

namespace JsonlServer

/-- `pending.find('\n', start)`. -/
def findNewline (pending : Bytes) (start : Nat) : Option Nat :=
  ((pending.drop start).findIdx? fun byte => byte = newline).map
    fun offset => start + offset

/-- `pending.substr(start, count)`. -/
def substr (pending : Bytes) (start count : Nat) : Bytes :=
  (pending.drop start).take count

/-- Remove one trailing carriage return. -/
def stripCarriageReturn (line : Bytes) : Bytes :=
  if line.getLast? = some carriageReturn then line.dropLast else line

/-- What the handler gets for a line that ended with a newline. -/
def deliver (line : Bytes) : List Bytes :=
  if (stripCarriageReturn line).isEmpty then []
  else [stripCarriageReturn line]

/-- What the handler gets for the bytes pending at the end. -/
def flush (pending : Bytes) : List Bytes :=
  if pending.isEmpty then [] else [pending]

theorem findNewline_spec
    {pending : Bytes}
    {start position : Nat}
    (found : findNewline pending start = some position) :
    start ≤ position ∧ position < pending.length ∧
      newline ∉ substr pending start (position - start) ∧
      pending.drop start =
        substr pending start (position - start) ++
          newline :: pending.drop (position + 1) := by
  obtain ⟨offset, isOffset, rfl⟩ := Option.map_eq_some_iff.mp found
  obtain ⟨inside, isNewline, before⟩ :=
    List.findIdx?_eq_some_iff_getElem.mp isOffset
  simp only [decide_eq_true_eq] at isNewline before
  have length := List.length_drop (i := start) (l := pending)
  have distance : start + offset - start = offset := by
    omega
  refine ⟨by omega, by omega, ?_, ?_⟩
  · rw [substr, distance]
    intro member
    obtain ⟨index, bound, isIndex⟩ := List.mem_iff_getElem.mp member
    rw [List.getElem_take] at isIndex
    have smaller : index < offset := by
      rw [List.length_take] at bound
      omega
    exact before index smaller isIndex
  · rw [substr, distance]
    calc
      pending.drop start =
          (pending.drop start).take offset ++
            (pending.drop start).drop offset :=
        (List.take_append_drop offset _).symm
      _ = (pending.drop start).take offset ++
            newline :: pending.drop (start + offset + 1) := by
        rw [List.drop_eq_getElem_cons inside, isNewline,
          List.drop_drop]
        rfl

/-- The inner loop: the lines handed over, and the final `start`. -/
def scanFrom (pending : Bytes) (start : Nat) : List Bytes × Nat :=
  match _found : findNewline pending start with
  | none => ([], start)
  | some position =>
      let later := scanFrom pending (position + 1)
      (deliver (substr pending start (position - start)) ++ later.1,
        later.2)
termination_by pending.length - start
decreasing_by
  obtain ⟨after, inside, _⟩ := findNewline_spec _found
  omega

/-- One read: the lines handed over, and what is pending afterwards. -/
def handleChunk (pending chunk : Bytes) : List Bytes × Bytes :=
  let appended := pending ++ chunk
  let scanned := scanFrom appended 0
  let remaining := appended.drop scanned.2
  (scanned.1,
    if runawayLimit < remaining.length then [] else remaining)

/--
`handle_client` with the given bytes pending: the strings passed to the
handler.  The results end where `running_` is found cleared.
-/
def handleClientFrom : Bytes → List RecvResult → List Bytes
  | pending, [] => flush pending
  | pending, .closed :: _ => flush pending
  | pending, .failed :: _ => flush pending
  | pending, .interrupted :: rest => handleClientFrom pending rest
  | pending, .received chunk :: rest =>
      let handled := handleChunk pending chunk.bytes
      handled.1 ++ handleClientFrom handled.2 rest

/-- `handle_client`. -/
def handleClient (results : List RecvResult) : List Bytes :=
  handleClientFrom [] results

/-- The chunks that arrive before the connection ends. -/
def receivedChunks : List RecvResult → List Bytes
  | [] => []
  | .closed :: _ => []
  | .failed :: _ => []
  | .interrupted :: rest => receivedChunks rest
  | .received chunk :: rest => chunk.bytes :: receivedChunks rest

/-- The byte stream of the connection. -/
def receivedBytes (results : List RecvResult) : Bytes :=
  (receivedChunks results).flatten

section Refinement

open LineFraming

/-! ## The reader sees the pieces of each line -/

theorem findNewline_eq_none
    {pending : Bytes}
    {start : Nat}
    (missing : findNewline pending start = none) :
    newline ∉ pending.drop start := by
  rw [findNewline, Option.map_eq_none_iff,
    List.findIdx?_eq_none_iff] at missing
  intro member
  have different := missing newline member
  simp at different

/-- The scan hands over the lines it finds and stops at the rest. -/
theorem scanFrom_spec (pending : Bytes) (start : Nat) :
    (scanFrom pending start).1 =
        (frame newline (pending.drop start)).complete.flatMap deliver ∧
      pending.drop (scanFrom pending start).2 =
        (frame newline (pending.drop start)).rest := by
  fun_induction scanFrom pending start with
  | case1 start missing =>
      rw [frame_of_not_mem (findNewline_eq_none missing)]
      exact ⟨rfl, rfl⟩
  | case2 start position found later inductionHypothesis =>
      obtain ⟨_, _, absent, shape⟩ := findNewline_spec found
      rw [shape, frame_append_separator absent]
      exact ⟨by rw [inductionHypothesis.1, List.flatMap_cons],
        inductionHypothesis.2⟩

/-- What one read does, in terms of the framing of its chunk. -/
theorem handleChunk_spec
    {pending : Bytes}
    (plain : newline ∉ pending)
    (chunk : Bytes) :
    handleChunk pending chunk =
      match (frame newline chunk).complete with
      | [] =>
          ([], keep runawayLimit pending (frame newline chunk).rest)
      | line :: others =>
          (deliver (pending ++ line) ++ others.flatMap deliver,
            keep runawayLimit [] (frame newline chunk).rest) := by
  obtain ⟨lines, remaining⟩ := scanFrom_spec (pending ++ chunk) 0
  rw [List.drop_zero, frame_append, frame_of_not_mem plain]
    at lines remaining
  simp only [handleChunk, lines, remaining]
  rcases frame newline chunk with ⟨complete, rest⟩
  cases complete with
  | nil =>
      rfl
  | cons line others =>
      simp only [Framed.append, keep, List.nil_append,
        List.flatMap_cons]
      rfl

/--
The reader's output: for every complete line what is left of it after the
runaway guard, and at the end what is left of the unterminated rest.
-/
theorem handleClientFrom_spec
    {rest : List Bytes}
    (plain : ∀ piece ∈ rest, newline ∉ piece)
    (results : List RecvResult) :
    handleClientFrom (kept runawayLimit [] rest) results =
      (cutFrame newline rest (receivedChunks results)).complete.flatMap
          (fun line => deliver (line.residue runawayLimit)) ++
        flush (kept runawayLimit []
          (cutFrame newline rest (receivedChunks results)).rest) := by
  induction results generalizing rest with
  | nil =>
      rfl
  | cons result later inductionHypothesis =>
      cases result with
      | closed =>
          rfl
      | failed =>
          rfl
      | interrupted =>
          exact inductionHypothesis plain
      | received chunk =>
          have plainPending : newline ∉ kept runawayLimit [] rest := by
            intro member
            rcases mem_kept member with inHeld | ⟨piece, inRest, inPiece⟩
            · simp at inHeld
            · exact plain piece inRest inPiece
          have plainTail :
              newline ∉ (frame newline chunk.bytes).rest :=
            not_mem_rest chunk.bytes
          rw [handleClientFrom, handleChunk_spec plainPending,
            receivedChunks, cutFrame]
          rcases framed : frame newline chunk.bytes with ⟨complete, tail⟩
          rw [framed] at plainTail
          cases complete with
          | nil =>
              have plainMore :
                  ∀ piece ∈ rest ++ [tail], newline ∉ piece := by
                intro piece member
                rcases List.mem_append.mp member with inRest | isTail
                · exact plain piece inRest
                · rw [List.mem_singleton.mp isTail]
                  exact plainTail
              have continued := inductionHypothesis plainMore
              rw [kept_append_singleton] at continued
              exact continued
          | cons line others =>
              have plainTailOnly :
                  ∀ piece ∈ [tail], newline ∉ piece := by
                intro piece member
                rw [List.mem_singleton.mp member]
                exact plainTail
              have continued := inductionHypothesis plainTailOnly
              have residues :
                  (others.map fun other =>
                      (⟨[], other⟩ : CutLine UInt8)).flatMap
                        (fun line =>
                          deliver (line.residue runawayLimit)) =
                    others.flatMap deliver := by
                rw [List.flatMap_map]
                rfl
              simp only [List.cons_append, List.flatMap_cons,
                List.flatMap_append, residues, List.append_assoc]
              rw [← continued]
              rfl

end Refinement

end JsonlServer

end OpticsSoftfail
