import Mathlib.Data.List.Flatten
import OpticsSoftfail.JsonlServer

namespace OpticsSoftfail

namespace JsonlServer

open LineFraming

/-!
# What the reader hands over

As long as no line is longer than the runaway limit, the handed lines depend on
the byte stream alone.  Beyond the limit they depend on where the reads cut the
line: the guard forgets that it is inside a line, so what follows its last
firing is taken for a line of its own.
-/

/-- The lines of the connection as the reads cut them. -/
def cutLines (results : List RecvResult) : CutFramed UInt8 :=
  cutFrame newline [] (receivedChunks results)

/-- `handle_client` in terms of the cut lines. -/
theorem handleClient_eq (results : List RecvResult) :
    handleClient results =
      (cutLines results).complete.flatMap
          (fun line => deliver (line.residue runawayLimit)) ++
        flush (kept runawayLimit [] (cutLines results).rest) := by
  have plain : ∀ piece ∈ ([] : List Bytes), newline ∉ piece := by
    simp
  exact handleClientFrom_spec plain results

/-- The cut lines are the newline-free segments of the stream. -/
theorem cutLines_whole (results : List RecvResult) :
    (cutLines results).complete.map CutLine.whole ++
        [(cutLines results).rest.flatten] =
      (receivedBytes results).splitOn newline := by
  have joined := cutFrame_whole newline [] (receivedChunks results)
  rw [List.flatten_nil, Framed.empty_append] at joined
  rw [← complete_append_rest_eq_splitOn, receivedBytes, joined]
  rfl

/-- A segment without the one carriage return that may end it. -/
def withoutReturn (segment : Bytes) : Bytes :=
  if [13] <:+ segment then segment.dropLast else segment

/--
What the handler has to get for a stream: the segments that a newline ends,
without one trailing carriage return and skipped when nothing is left, and then
the unterminated segment as it is unless it is empty.
-/
def framedLines (stream : Bytes) : List Bytes :=
  ((stream.splitOn 10).dropLast.map withoutReturn).filter
      (fun line => line ≠ []) ++
    (stream.splitOn 10).getLast?.toList.filter fun rest => rest ≠ []

theorem stripCarriageReturn_concat (front : Bytes) (last : UInt8) :
    stripCarriageReturn (front ++ [last]) =
      if last = carriageReturn then front else front ++ [last] := by
  rw [stripCarriageReturn, List.getLast?_concat, List.dropLast_concat]
  simp only [Option.some.injEq]

theorem stripCarriageReturn_eq (segment : Bytes) :
    stripCarriageReturn segment = withoutReturn segment := by
  rcases List.eq_nil_or_concat segment with isEmpty | ⟨front, last, shape⟩
  · subst isEmpty
    rfl
  · rw [List.concat_eq_append] at shape
    subst shape
    have isReturn : [13] <:+ front ++ [last] ↔ last = carriageReturn := by
      constructor
      · rintro ⟨before, shape⟩
        exact (List.singleton_inj.mp (List.append_inj' shape rfl).2).symm
      · rintro rfl
        exact List.suffix_append front _
    rw [stripCarriageReturn_concat, withoutReturn, List.dropLast_concat]
    simp only [isReturn]

/-- The reader hands over the segment that is left, unless it is empty. -/
theorem deliver_eq_filter (segment : Bytes) :
    deliver segment = [withoutReturn segment].filter fun line => line ≠ [] := by
  rw [deliver, stripCarriageReturn_eq]
  cases withoutReturn segment <;> rfl

theorem flush_eq_filter (pending : Bytes) :
    flush pending = [pending].filter fun rest => rest ≠ [] := by
  cases pending <;> rfl

/-- The framed lines, read off the cut lines. -/
theorem framedLines_eq (results : List RecvResult) :
    framedLines (receivedBytes results) =
      (cutLines results).complete.flatMap
          (fun line => deliver line.whole) ++
        flush (cutLines results).rest.flatten := by
  rw [framedLines, ← show newline = 10 from rfl, ← cutLines_whole,
    List.dropLast_concat, List.getLast?_concat, List.map_map,
    List.map_eq_flatMap, List.filter_flatMap, Option.toList_some,
    flush_eq_filter]
  simp only [Function.comp_apply, deliver_eq_filter]

/--
When no segment of the stream is longer than the limit, every way the reads can
cut the stream leads to the same lines.
-/
theorem framing_is_independent_of_cuts
    (stream : Bytes)
    (short :
      ∀ segment ∈ stream.splitOn 10, segment.length ≤ 1048576)
    (results : List RecvResult)
    (isStream : receivedBytes results = stream) :
    handleClient results = framedLines stream := by
  subst stream
  rw [← show newline = 10 from rfl, ← cutLines_whole] at short
  have residues :
      ∀ line ∈ (cutLines results).complete,
        line.residue runawayLimit = line.whole := by
    intro line member
    apply CutLine.residue_of_not_overrun
    apply not_overruns_of_length_le
    have whole := short line.whole
      (List.mem_append_left _ (List.mem_map_of_mem member))
    rw [CutLine.whole, List.length_append] at whole
    exact Nat.le_trans (Nat.le_add_right _ _) whole
  have rest :
      kept runawayLimit [] (cutLines results).rest =
        (cutLines results).rest.flatten := by
    apply kept_of_not_overruns
    apply not_overruns_of_length_le
    exact short _ (List.mem_append_right _ (List.mem_singleton_self _))
  rw [handleClient_eq, framedLines_eq, rest]
  congr 1
  apply List.flatMap_congr
  intro line member
  rw [residues line member]

/-- Two lines and a rest; the first line break is cut in two. -/
def cutLineBreak : List RecvResult :=
  [.received ⟨[97, 13], by decide, by decide⟩, .interrupted,
    .received ⟨[10, 10, 98, 10, 99], by decide, by decide⟩, .closed]

theorem framing_is_independent_of_cuts_line_break :
    receivedBytes cutLineBreak = [97, 13, 10, 10, 98, 10, 99] ∧
      handleClient cutLineBreak =
        framedLines [97, 13, 10, 10, 98, 10, 99] :=
  ⟨rfl, framing_is_independent_of_cuts _ (by decide) _ rfl⟩

example :
    framedLines [97, 13, 10, 10, 98, 10, 99] = [[97], [98], [99]] := by
  decide

section Runaway

/-! ## Lines beyond the limit -/

/-- A string is a line of the stream, up to one trailing carriage return. -/
def IsWholeLine (stream handed : Bytes) : Prop :=
  ∃ segment ∈ stream.splitOn newline,
    handed = segment ∨ handed = stripCarriageReturn segment

/-- The lines of the connection, those left out on which the guard fired. -/
def unguardedLines (results : List RecvResult) : List Bytes :=
  ((cutLines results).complete.filter fun line =>
      !line.overrun runawayLimit).flatMap
        (fun line => deliver line.whole) ++
    if overruns runawayLimit [] (cutLines results).rest then []
    else flush (cutLines results).rest.flatten

/-- The reader never hands over a part of a line. -/
structure NeverPartial (results : List RecvResult) : Prop where
  /-- Whatever is handed over is a whole line of the stream. -/
  whole :
    ∀ handed ∈ handleClient results,
      IsWholeLine (receivedBytes results) handed
  /-- A line the guard fired on is left out, and only such a line. -/
  exactly : handleClient results = unguardedLines results

/--
Where the guard fires in a line, nothing follows its last firing, except that a
carriage return may stand before the newline.
-/
structure GuardEndsLines (results : List RecvResult) : Prop where
  complete :
    ∀ line ∈ (cutLines results).complete,
      line.overrun runawayLimit = true →
      line.residue runawayLimit = [] ∨
        line.residue runawayLimit = [carriageReturn]
  rest :
    overruns runawayLimit [] (cutLines results).rest = true →
    kept runawayLimit [] (cutLines results).rest = []

/-- Only an empty line and a lone carriage return are skipped. -/
theorem deliver_eq_nil_iff {line : Bytes} :
    deliver line = [] ↔ line = [] ∨ line = [carriageReturn] := by
  rcases List.eq_nil_or_concat line with isEmpty | ⟨front, last, shape⟩
  · subst isEmpty
    simp [deliver, stripCarriageReturn]
  · rw [List.concat_eq_append] at shape
    subst shape
    rw [deliver, stripCarriageReturn_concat]
    by_cases isReturn : last = carriageReturn
    · cases front <;> simp [isReturn]
    · cases front <;> simp [isReturn]

theorem flush_eq_nil_iff {pending : Bytes} :
    flush pending = [] ↔ pending = [] := by
  cases pending <;> simp [flush]

theorem mem_deliver
    {line handed : Bytes}
    (member : handed ∈ deliver line) :
    handed = stripCarriageReturn line := by
  rw [deliver] at member
  split at member
  · simp at member
  · exact List.mem_singleton.mp member

theorem mem_flush
    {pending handed : Bytes}
    (member : handed ∈ flush pending) :
    handed = pending := by
  rw [flush] at member
  split at member
  · simp at member
  · exact List.mem_singleton.mp member

/-- The lines on which the guard did not fire are whole lines. -/
theorem isWholeLine_of_mem_unguardedLines
    {results : List RecvResult}
    {handed : Bytes}
    (member : handed ∈ unguardedLines results) :
    IsWholeLine (receivedBytes results) handed := by
  rw [IsWholeLine, ← cutLines_whole]
  rcases List.mem_append.mp member with isLine | isRest
  · obtain ⟨line, isUnguarded, isHanded⟩ := List.mem_flatMap.mp isLine
    have isComplete := (List.mem_filter.mp isUnguarded).1
    exact ⟨line.whole,
      List.mem_append_left _ (List.mem_map_of_mem isComplete),
      Or.inr (mem_deliver isHanded)⟩
  · split at isRest
    · simp at isRest
    · exact ⟨(cutLines results).rest.flatten,
        List.mem_append_right _ (List.mem_singleton_self _),
        Or.inl (mem_flush isRest)⟩

/-- Dropping some items shortens the joined output by what they contribute. -/
theorem length_flatMap_eq_add
    {Item Output : Type}
    (output : Item → List Output)
    (chosen : Item → Bool)
    (items : List Item) :
    (items.flatMap output).length =
      ((items.filter chosen).flatMap output).length +
        ((items.filter fun item => !chosen item).flatMap output).length := by
  induction items with
  | nil =>
      rfl
  | cons item rest inductionHypothesis =>
      cases isChosen : chosen item <;>
        simp only [List.filter_cons, isChosen, List.flatMap_cons,
          List.length_append, inductionHypothesis, Bool.not_true,
          Bool.not_false, if_true, Bool.false_eq_true, if_false] <;>
        omega

/-- Where the guard did not fire, the whole line is handed over. -/
theorem residues_of_unguarded (results : List RecvResult) :
    ((cutLines results).complete.filter fun line =>
        !line.overrun runawayLimit).flatMap
          (fun line => deliver (line.residue runawayLimit)) =
      ((cutLines results).complete.filter fun line =>
        !line.overrun runawayLimit).flatMap
          (fun line => deliver line.whole) := by
  apply List.flatMap_congr
  intro line member
  have unguarded := (List.mem_filter.mp member).2
  rw [CutLine.residue_of_not_overrun (by simpa using unguarded)]

/-- What the guarded lines contribute besides the unguarded ones. -/
def leftovers (results : List RecvResult) : List Bytes :=
  ((cutLines results).complete.filter fun line =>
      line.overrun runawayLimit).flatMap
        (fun line => deliver (line.residue runawayLimit)) ++
    if overruns runawayLimit [] (cutLines results).rest then
      flush (kept runawayLimit [] (cutLines results).rest)
    else []

/-- The unguarded lines are handed over, and the leftovers besides. -/
theorem length_handleClient (results : List RecvResult) :
    (handleClient results).length =
      (unguardedLines results).length + (leftovers results).length := by
  have whole := residues_of_unguarded results
  have lines := length_flatMap_eq_add
    (fun line => deliver (line.residue runawayLimit))
    (fun line : CutLine UInt8 => !line.overrun runawayLimit)
    (cutLines results).complete
  simp only [Bool.not_not] at lines
  rw [handleClient_eq, unguardedLines, leftovers, ← whole]
  cases guarded : overruns runawayLimit [] (cutLines results).rest with
  | true =>
      simp only [List.length_append, lines, if_true, List.length_nil]
      omega
  | false =>
      rw [kept_of_not_overruns guarded]
      simp only [List.length_append, lines, Bool.false_eq_true,
        if_false, List.length_nil, List.nil_append]
      omega

/-- The unguarded lines are handed over in their order. -/
theorem unguardedLines_sublist (results : List RecvResult) :
    (unguardedLines results).Sublist (handleClient results) := by
  rw [handleClient_eq, unguardedLines, ← residues_of_unguarded]
  apply List.Sublist.append
  · exact List.Sublist.flatMap List.filter_sublist _
  · cases guarded : overruns runawayLimit [] (cutLines results).rest with
    | true =>
        simp
    | false =>
        rw [kept_of_not_overruns guarded]
        simp

/-- Nothing is left over exactly when the guard ends lines. -/
theorem leftovers_eq_nil_iff (results : List RecvResult) :
    leftovers results = [] ↔ GuardEndsLines results := by
  rw [leftovers, List.append_eq_nil_iff, List.flatMap_eq_nil_iff]
  constructor
  · rintro ⟨lines, rest⟩
    refine { complete := ?_, rest := ?_ }
    · intro line member guarded
      exact deliver_eq_nil_iff.mp
        (lines line (List.mem_filter.mpr ⟨member, guarded⟩))
    · intro guarded
      rw [if_pos guarded] at rest
      exact flush_eq_nil_iff.mp rest
  · intro ends
    constructor
    · intro line member
      obtain ⟨isComplete, guarded⟩ := List.mem_filter.mp member
      exact deliver_eq_nil_iff.mpr (ends.complete line isComplete guarded)
    · split
      · rename_i guarded
        exact flush_eq_nil_iff.mpr (ends.rest guarded)
      · rfl

/--
The reader never hands over part of a line exactly when nothing but a carriage
return follows the guard's last firing in a line.
-/
theorem neverPartial_iff_guardEndsLines (results : List RecvResult) :
    NeverPartial results ↔ GuardEndsLines results := by
  rw [← leftovers_eq_nil_iff]
  have length := length_handleClient results
  constructor
  · intro never
    rw [never.exactly] at length
    apply List.eq_nil_of_length_eq_zero
    omega
  · intro nothing
    rw [nothing, List.length_nil, Nat.add_zero] at length
    have same : handleClient results = unguardedLines results :=
      ((unguardedLines_sublist results).eq_of_length length.symm).symm
    refine { whole := ?_, exactly := same }
    intro handed member
    rw [same] at member
    exact isWholeLine_of_mem_unguardedLines member

/-- The chunks of repeated reads. -/
theorem receivedChunks_replicate
    (count : Nat)
    (chunk : Chunk)
    (later : List RecvResult) :
    receivedChunks
        (List.replicate count (.received chunk) ++ later) =
      List.replicate count chunk.bytes ++ receivedChunks later := by
  induction count with
  | zero =>
      rfl
  | succ count inductionHypothesis =>
      rw [List.replicate_succ, List.cons_append, receivedChunks,
        inductionHypothesis, List.replicate_succ, List.cons_append]

/-- A read that fills the buffer with the letter `a`. -/
def fullChunk : Chunk where
  bytes := List.replicate kReadBufferSize 97
  nonempty := by
    rw [ne_eq, List.replicate_eq_nil_iff]
    decide
  fits := Nat.le_of_eq List.length_replicate

/-- The newline after the letter `b`. -/
def tailChunk : Chunk :=
  ⟨[98, 10], by decide, by decide⟩

/-- A line of 129 full reads and a `b`. -/
def runawayResults : List RecvResult :=
  List.replicate 129 (.received fullChunk) ++
    [.received tailChunk, .closed]

theorem cutLines_runawayResults :
    cutLines runawayResults =
      ⟨[⟨List.replicate 129 fullChunk.bytes, [98]⟩], [[]]⟩ := by
  have plain : newline ∉ fullChunk.bytes := by
    intro member
    have isLetter := List.eq_of_mem_replicate member
    exact absurd isLetter (by decide)
  rw [cutLines, runawayResults, receivedChunks_replicate,
    cutFrame_replicate plain]
  rfl

/-- The guard fires after the last full read, and `b` is handed over alone. -/
theorem tail_of_runaway_line_is_handed_over :
    [98] ∈ handleClient runawayResults ∧
      ¬ IsWholeLine (receivedBytes runawayResults) [98] := by
  have length : fullChunk.bytes.length = 8192 :=
    List.length_replicate
  constructor
  · rw [handleClient_eq, cutLines_runawayResults]
    have nothing :
        kept runawayLimit [] (List.replicate (128 + 1) fullChunk.bytes) =
          [] :=
      kept_replicate_overrun (by rw [length]; decide)
        (by rw [length]; decide)
    simp only [List.flatMap_cons, CutLine.residue, nothing]
    decide
  · rw [IsWholeLine, ← cutLines_whole, cutLines_runawayResults]
    have lineLength :
        (CutLine.whole
          ⟨List.replicate 129 fullChunk.bytes, [98]⟩).length =
            1056769 := by
      simp [CutLine.whole, length]
    rintro ⟨segment, member, isSegment⟩
    simp only [List.map_cons, List.map_nil, List.singleton_append,
      List.mem_cons, List.not_mem_nil, or_false] at member
    rcases member with isLine | isRest
    · have unstripped :
          stripCarriageReturn segment = segment := by
        rw [isLine, CutLine.whole, stripCarriageReturn_concat,
          if_neg (by decide)]
      rw [unstripped, or_self] at isSegment
      have tooLong := congrArg List.length isSegment
      rw [isLine, lineLength] at tooLong
      simp at tooLong
    · subst isRest
      rcases isSegment with same | same
      · simp at same
      · simp [stripCarriageReturn] at same

/-- Hence the reader does hand over a part of a line. -/
theorem runaway_tail_breaks_whole_lines :
    ¬ ∀ results, NeverPartial results := by
  intro claim
  obtain ⟨handed, notWhole⟩ := tail_of_runaway_line_is_handed_over
  exact notWhole ((claim runawayResults).whole [98] handed)

end Runaway

end JsonlServer

end OpticsSoftfail
