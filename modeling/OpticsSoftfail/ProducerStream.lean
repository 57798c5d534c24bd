import OpticsSoftfail.IngestHandler
import OpticsSoftfail.JsonText
import OpticsSoftfail.JsonlFraming
import OpticsSoftfail.PartialMaps
import OpticsSoftfail.ProducerRecord
import OpticsSoftfail.Utf8

namespace OpticsSoftfail

/-!
# The stream from the producer to the ingest

`stream_frames` sends one record after the other over one connection, and may
break off in the middle of a line.  The ingest serves one connection after the
other and hands over what is pending when one ends.  What it accepts of a
broken stream is said here: whole records, in their order, and nothing else.
-/

namespace JsonlServer

open LineFraming

/-- What one `accept` call returns. -/
inductive AcceptResult where
  | accepted (results : List RecvResult)
  /-- `errno` is `EINTR`. -/
  | interrupted
  /-- Any other `errno`, which is logged. -/
  | failed

/--
`serve_forever`: the strings passed to the handler.  The results end where
`running_` is found cleared.
-/
def serveForever : List AcceptResult → List Bytes
  | [] => []
  | .accepted results :: later => handleClient results ++ serveForever later
  | .interrupted :: later => serveForever later
  | .failed :: later => serveForever later

/-- The connections that are served. -/
def AcceptResult.served? : AcceptResult → Option (List RecvResult)
  | .accepted results => some results
  | .interrupted => none
  | .failed => none

theorem serveForever_eq (accepts : List AcceptResult) :
    serveForever accepts =
      (accepts.filterMap AcceptResult.served?).flatMap handleClient := by
  induction accepts with
  | nil =>
      rfl
  | cons accept later inductionHypothesis =>
      cases accept <;>
        simp [serveForever, AcceptResult.served?, List.filterMap_cons,
          inductionHypothesis]

/-- Lines within the limit are handed over however the stream is cut. -/
theorem handleClient_of_lines
    {lines : List Bytes}
    {tail : Bytes}
    (plain : ∀ line ∈ lines, newline ∉ line)
    (plainTail : newline ∉ tail)
    (short : ∀ line ∈ lines, line.length ≤ runawayLimit)
    (shortTail : tail.length ≤ runawayLimit)
    {results : List RecvResult}
    (isStream :
      receivedBytes results =
        lines.flatMap (fun line => line ++ [newline]) ++ tail) :
    handleClient results = lines.flatMap deliver ++ flush tail := by
  have whole := cutLines_whole results
  rw [isStream, ← complete_append_rest_eq_splitOn,
    frame_flatMap_separator plain plainTail] at whole
  obtain ⟨same, sameTail⟩ := List.append_inj' whole rfl
  have isLines : (cutLines results).complete.map CutLine.whole = lines :=
    same
  have isTail : (cutLines results).rest.flatten = tail :=
    List.singleton_inj.mp sameTail
  rw [handleClient_eq, kept_of_not_overruns
    (not_overruns_of_length_le (by simpa [isTail] using shortTail)),
    List.nil_append, isTail, ← isLines, List.flatMap_map]
  congr 1
  refine List.flatMap_congr fun line member => ?_
  have fits := short line.whole (isLines ▸ List.mem_map_of_mem member)
  rw [CutLine.whole, List.length_append] at fits
  rw [CutLine.residue_of_not_overrun]
  exact not_overruns_of_length_le (by rw [List.nil_append]; omega)

end JsonlServer

namespace Producer

variable {Value : Type}

/-- What one call of `sendall` does. -/
inductive SendAll where
  | sent
  /-- `BrokenPipeError` or `ConnectionResetError`, after so many bytes. -/
  | closed (count : Nat)
  /-- Any other exception, after so many bytes. -/
  | raised (count : Nat)
  deriving Repr, DecidableEq

/-- What the socket has taken, and the counter `sent`. -/
structure Stream where
  taken : Bytes
  sent : Nat
  deriving Repr, DecidableEq

/-- How `stream_frames` ends. -/
inductive StreamEnd where
  | returned
  | raised
  /-- Not yet. -/
  | running
  deriving Repr, DecidableEq

/-- How the loop over the records ends. -/
inductive PassEnd where
  /-- With the results that were not needed. -/
  | completed (left : List SendAll)
  | ended (how : StreamEnd)
  deriving Repr, DecidableEq

/-- The records that pandas hands to the producer. -/
abbrev Record (Value : Type) := Dict String (PyValue Value)

/-- `json.dumps`. -/
abbrev Dumps (Value : Type) := Dict String (PyValue Value) → List Char

section Model

variable [Ring Value] [LinearOrder Value] [FloorRing Value]

/-- The line of a record; `none` is an exception. -/
def lineOf?
    (python : Interpreter Value)
    (dumps : Dumps Value)
    (keepLabel : Bool)
    (rec : Record Value) : Option Bytes := do
  let clean ← cleanRecord python rec keepLabel
  -- The pacing reads `clean["ts_unix_ms"]` before anything is sent.
  let _ ← clean.get? "ts_unix_ms"
  return Utf8.encode (dumps clean)

/-- The loop `for rec in frames`, with what each `sendall` does. -/
def streamPass
    (python : Interpreter Value)
    (dumps : Dumps Value)
    (keepLabel : Bool) :
    Stream → List (Record Value) → List SendAll → Stream × PassEnd
  | stream, [], results => (stream, .completed results)
  | stream, rec :: later, results =>
      match lineOf? python dumps keepLabel rec with
      | none => (stream, .ended .raised)
      | some line =>
          let payload := line ++ [newline]
          match results with
          | [] => (stream, .ended .running)
          | .sent :: results =>
              streamPass python dumps keepLabel
                ⟨stream.taken ++ payload, stream.sent + 1⟩ later results
          | .closed count :: _ =>
              ({ stream with taken := stream.taken ++ payload.take count },
                .ended .returned)
          | .raised count :: _ =>
              ({ stream with taken := stream.taken ++ payload.take count },
                .ended .raised)

/-- The loop `while True`, for so many passes over the records. -/
def streamPasses
    (python : Interpreter Value)
    (dumps : Dumps Value)
    (keepLabel loop : Bool)
    (frames : List (Record Value)) :
    Nat → Stream → List SendAll → Stream × StreamEnd
  | 0, stream, _ => (stream, .running)
  | passes + 1, stream, results =>
      match streamPass python dumps keepLabel stream frames results with
      | (stream, .ended how) => (stream, how)
      | (stream, .completed left) =>
          if loop then
            streamPasses python dumps keepLabel loop frames passes stream left
          else
            (stream, .returned)

/-- `stream_frames` once it is connected. -/
def streamFrames
    (python : Interpreter Value)
    (dumps : Dumps Value)
    (keepLabel loop : Bool)
    (frames : List (Record Value))
    (passes : Nat)
    (results : List SendAll) : Stream × StreamEnd :=
  streamPasses python dumps keepLabel loop frames passes ⟨[], 0⟩ results

end Model

/-- The bytes of these lines. -/
def payloads (lines : List Bytes) : Bytes :=
  lines.flatMap fun line => line ++ [newline]

@[simp] theorem payloads_nil : payloads [] = [] :=
  rfl

@[simp] theorem payloads_cons (line : Bytes) (later : List Bytes) :
    payloads (line :: later) = line ++ [newline] ++ payloads later :=
  List.flatMap_cons

@[simp] theorem payloads_append (first later : List Bytes) :
    payloads (first ++ later) = payloads first ++ payloads later :=
  List.flatMap_append

section Sending

/-! ## What has been sent when the loop ends -/

variable [Ring Value] [LinearOrder Value] [FloorRing Value]
variable {python : Interpreter Value} {dumps : Dumps Value}
variable {keepLabel loop : Bool} {frames records : List (Record Value)}
variable {before after : Stream}

/--
The lines of the first records have been sent, the last of them perhaps in part,
and the counter counts those that were sent whole.
-/
structure PartlySent
    (python : Interpreter Value)
    (dumps : Dumps Value)
    (keepLabel : Bool)
    (records : List (Record Value))
    (before after : Stream)
    (lines : List Bytes)
    (progress : Bytes) : Prop where
  begun :
    (records.take lines.length).mapM (lineOf? python dumps keepLabel) =
      some lines
  taken : after.taken = before.taken ++ progress
  within : progress <+: payloads lines
  counted :
    ∃ count,
      after.sent = before.sent + count ∧
        payloads (lines.take count) <+: progress ∧
        count ≤ lines.length ∧ lines.length ≤ count + 1

/-- Nothing has been sent. -/
theorem PartlySent.nothing (records : List (Record Value)) (stream : Stream) :
    PartlySent python dumps keepLabel records stream stream [] [] where
  begun := rfl
  taken := (List.append_nil _).symm
  within := List.prefix_rfl
  counted := ⟨0, rfl, List.prefix_rfl, Nat.le_refl _, Nat.zero_le _⟩

/-- A line has been sent in part. -/
theorem PartlySent.part
    {rec : Record Value}
    {line : Bytes}
    (isLine : lineOf? python dumps keepLabel rec = some line)
    (later : List (Record Value))
    (stream : Stream)
    (count : Nat) :
    PartlySent python dumps keepLabel (rec :: later) stream
      { stream with
        taken := stream.taken ++ (line ++ [newline]).take count }
      [line] ((line ++ [newline]).take count) where
  begun := mapM_eq_some_of_forall₂ (List.Forall₂.cons isLine List.Forall₂.nil)
  taken := rfl
  within := by
    rw [payloads_cons, payloads_nil, List.append_nil]
    exact List.take_prefix _ _
  counted := ⟨0, rfl, List.nil_prefix, Nat.zero_le _, Nat.le_refl _⟩

/-- The records in front have been sent. -/
theorem PartlySent.prepend
    {front rest : List (Record Value)}
    {frontLines lines : List Bytes}
    {progress : Bytes}
    (areLines :
      front.mapM (lineOf? python dumps keepLabel) = some frontLines)
    (partly :
      PartlySent python dumps keepLabel rest
        ⟨before.taken ++ payloads frontLines, before.sent + front.length⟩
        after lines progress) :
    PartlySent python dumps keepLabel (front ++ rest) before after
      (frontLines ++ lines) (payloads frontLines ++ progress) := by
  have sameLength : front.length = frontLines.length :=
    (forall₂_of_mapM_eq_some areLines).length_eq
  obtain ⟨count, sent, whole, least, most⟩ := partly.counted
  exact {
    begun := by
      rw [List.length_append, ← sameLength, List.take_length_add_append]
      exact mapM_eq_some_of_forall₂
        (List.rel_append (forall₂_of_mapM_eq_some areLines)
          (forall₂_of_mapM_eq_some partly.begun))
    taken := by rw [partly.taken, List.append_assoc]
    within := by
      rw [payloads_append]
      exact (List.prefix_append_right_inj _).mpr partly.within
    counted := by
      refine ⟨front.length + count, by rw [sent, Nat.add_assoc], ?_, ?_⟩
      · rw [sameLength, List.take_length_add_append, payloads_append]
        exact (List.prefix_append_right_inj _).mpr whole
      · rw [List.length_append]
        constructor <;> omega }

/-- A pass that completes has sent all lines. -/
theorem streamPass_completed
    {results left : List SendAll}
    (passed :
      streamPass python dumps keepLabel before frames results =
        (after, .completed left)) :
    ∃ lines,
      frames.mapM (lineOf? python dumps keepLabel) = some lines ∧
        after =
          ⟨before.taken ++ payloads lines, before.sent + frames.length⟩ := by
  induction frames generalizing before results with
  | nil =>
      obtain ⟨rfl, _⟩ := Prod.mk.inj passed
      exact ⟨[], rfl, by simp⟩
  | cons rec later inductionHypothesis =>
      rw [streamPass] at passed
      split at passed
      · simp at passed
      · next line isLine =>
        split at passed
        · simp at passed
        · obtain ⟨lines, areLines, rfl⟩ := inductionHypothesis passed
          refine ⟨line :: lines, ?_, ?_⟩
          · exact mapM_eq_some_of_forall₂
              (List.Forall₂.cons isLine (forall₂_of_mapM_eq_some areLines))
          · refine congrArg₂ Stream.mk (by simp) ?_
            exact (Nat.add_assoc _ _ _).trans
              (congrArg (before.sent + ·) (Nat.add_comm 1 later.length))
        · simp at passed
        · simp at passed

/-- A pass that ends otherwise has sent a part. -/
theorem streamPass_ended
    {results : List SendAll}
    {how : StreamEnd}
    (passed :
      streamPass python dumps keepLabel before frames results =
        (after, .ended how)) :
    ∃ lines progress,
      PartlySent python dumps keepLabel frames before after lines
        progress := by
  induction frames generalizing before results with
  | nil =>
      simp [streamPass] at passed
  | cons rec later inductionHypothesis =>
      rw [streamPass] at passed
      split at passed
      · obtain ⟨rfl, _⟩ := Prod.mk.inj passed
        exact ⟨[], [], PartlySent.nothing _ _⟩
      · next line isLine =>
        split at passed
        · obtain ⟨rfl, _⟩ := Prod.mk.inj passed
          exact ⟨[], [], PartlySent.nothing _ _⟩
        · obtain ⟨lines, progress, partly⟩ := inductionHypothesis passed
          have one :
              [rec].mapM (lineOf? python dumps keepLabel) = some [line] :=
            mapM_eq_some_of_forall₂
              (List.Forall₂.cons isLine List.Forall₂.nil)
          exact ⟨[line] ++ lines, payloads [line] ++ progress,
            PartlySent.prepend one (by simpa using partly)⟩
        · obtain ⟨rfl, _⟩ := Prod.mk.inj passed
          exact ⟨_, _, PartlySent.part isLine _ _ _⟩
        · obtain ⟨rfl, _⟩ := Prod.mk.inj passed
          exact ⟨_, _, PartlySent.part isLine _ _ _⟩

/-- When every call succeeds, all lines are sent. -/
theorem streamPass_of_sent
    {lines : List Bytes}
    (areLines : frames.mapM (lineOf? python dumps keepLabel) = some lines) :
    streamPass python dumps keepLabel before frames
        (List.replicate frames.length .sent) =
      (⟨before.taken ++ payloads lines, before.sent + frames.length⟩,
        .completed []) := by
  have related := forall₂_of_mapM_eq_some areLines
  clear areLines
  induction related generalizing before with
  | nil =>
      simp [streamPass]
  | @cons rec line later lines isLine _ inductionHypothesis =>
      rw [List.length_cons, List.replicate_succ, streamPass, isLine]
      refine inductionHypothesis.trans ?_
      rw [payloads_cons, List.append_assoc before.taken, Nat.add_assoc,
        Nat.add_comm 1]

/-- The records in the order in which the passes go over them. -/
def sequence
    (loop : Bool)
    (frames : List (Record Value))
    (passes : Nat) : List (Record Value) :=
  if loop then (List.replicate passes frames).flatten else frames

/-- So have the passes over the records together. -/
theorem streamPasses_partlySent
    (python : Interpreter Value)
    (dumps : Dumps Value)
    (keepLabel loop : Bool)
    (frames : List (Record Value))
    (passes : Nat)
    (before : Stream)
    (results : List SendAll) :
    ∃ lines progress,
      PartlySent python dumps keepLabel (sequence loop frames passes) before
        (streamPasses python dumps keepLabel loop frames passes before
          results).1
        lines progress := by
  induction passes generalizing before results with
  | zero =>
      exact ⟨[], [], PartlySent.nothing _ _⟩
  | succ passes inductionHypothesis =>
      rw [streamPasses]
      cases passed :
          streamPass python dumps keepLabel before frames results with
      | mk stream how =>
          cases how with
          | ended how =>
              obtain ⟨lines, progress, partly⟩ := streamPass_ended passed
              cases loop with
              | false =>
                  exact ⟨lines, progress, partly⟩
              | true =>
                  have sameLength :=
                    (forall₂_of_mapM_eq_some partly.begun).length_eq
                  rw [List.length_take] at sameLength
                  refine ⟨lines, progress, { partly with begun := ?_ }⟩
                  rw [sequence, if_pos rfl, List.replicate_succ,
                    List.flatten_cons,
                    List.take_append_of_le_length (by omega)]
                  exact partly.begun
          | completed left =>
              obtain ⟨lines, areLines, rfl⟩ := streamPass_completed passed
              cases loop with
              | true =>
                  obtain ⟨later, progress, partly⟩ :=
                    inductionHypothesis
                      ⟨before.taken ++ payloads lines,
                        before.sent + frames.length⟩ left
                  exact ⟨_, _, PartlySent.prepend areLines partly⟩
              | false =>
                  have sent :
                      PartlySent python dumps keepLabel (frames ++ []) before
                        ⟨before.taken ++ payloads lines,
                          before.sent + frames.length⟩
                        (lines ++ []) (payloads lines ++ []) :=
                    PartlySent.prepend areLines (PartlySent.nothing _ _)
                  rw [List.append_nil frames] at sent
                  exact ⟨_, _, sent⟩

end Sending

section Accepting

/-! ## What the ingest accepts of it -/

/-- A prefix of the lines' bytes consists of whole lines and a part of one. -/
theorem exists_of_prefix_payloads
    {lines : List Bytes}
    {bytes : Bytes}
    (isPrefix : bytes <+: payloads lines) :
    ∃ count tail,
      count ≤ lines.length ∧
        bytes = payloads (lines.take count) ++ tail ∧
        (tail = [] ∨
          ∃ line, lines[count]? = some line ∧ tail <+: line) := by
  induction lines generalizing bytes with
  | nil =>
      obtain rfl := List.prefix_nil.mp isPrefix
      exact ⟨0, [], Nat.le_refl _, rfl, Or.inl rfl⟩
  | cons line later inductionHypothesis =>
      obtain ⟨missing, whole⟩ := isPrefix
      rw [payloads_cons] at whole
      rcases List.append_eq_append_iff.mp whole with
        ⟨rest, isRest, _⟩ | ⟨more, isMore, remaining⟩
      · rcases List.prefix_concat_iff.mp ⟨rest, isRest.symm⟩ with
          isLine | isPart
        · exact ⟨1, [], by simp, by simp [isLine], Or.inl rfl⟩
        · exact ⟨0, bytes, Nat.zero_le _, rfl, Or.inr ⟨line, rfl, isPart⟩⟩
      · obtain ⟨count, tail, most, isBytes, isTail⟩ :=
          inductionHypothesis ⟨missing, remaining.symm⟩
        refine ⟨count + 1, tail, by simpa using most, ?_, isTail⟩
        rw [isMore, isBytes, List.take_succ_cons, payloads_cons]
        simp only [List.append_assoc]

/-- A character that `json.dumps` writes. -/
def isPrintable (char : Char) : Bool :=
  32 ≤ char.toNat && char.toNat < 127

/-- The ingest parses a text of these characters only if it is JSON. -/
def ParsesJson (library : IngestLibrary Value) : Prop :=
  ∀ text : List Char,
    (∀ char ∈ text, isPrintable char = true) →
      library.parse (Utf8.encode text) ≠ none →
        JsonText.accepts text = true

/-- What `json.dumps` writes for a dictionary. -/
structure DumpsObjects (dumps : Dumps Value) : Prop where
  object : ∀ clean, JsonText.IsObject (dumps clean)
  printable : ∀ clean, ∀ char ∈ dumps clean, isPrintable char = true

theorem encode_of_printable
    {text : List Char}
    (printable : ∀ char ∈ text, isPrintable char = true) :
    Utf8.encode text = text.map fun char => UInt8.ofNat char.toNat := by
  induction text with
  | nil =>
      rfl
  | cons char later inductionHypothesis =>
      obtain ⟨first, rest⟩ := List.forall_mem_cons.mp printable
      have small : char.toNat ≤ 127 := by
        simp only [isPrintable, Bool.and_eq_true, decide_eq_true_eq] at first
        omega
      rw [Utf8.encode_cons, inductionHypothesis rest, List.map_cons]
      simp [String.utf8EncodeChar, small]

/-- The bytes of a text are cut between its characters. -/
theorem exists_of_prefix_encode
    {text : List Char}
    (printable : ∀ char ∈ text, isPrintable char = true)
    {bytes : Bytes}
    (isPrefix : bytes <+: Utf8.encode text) :
    ∃ first later, text = first ++ later ∧ bytes = Utf8.encode first := by
  rw [encode_of_printable printable] at isPrefix
  obtain ⟨missing, whole⟩ := isPrefix
  obtain ⟨first, later, rfl, isFirst, _⟩ :=
    List.map_eq_append_iff.mp whole.symm
  refine ⟨first, later, rfl, ?_⟩
  rw [← isFirst, encode_of_printable fun char member =>
    printable char (List.mem_append_left _ member)]

/-- Of a line that is cut short nothing is accepted. -/
theorem acceptedSample?_of_cut
    [Ring Value] [LinearOrder Value] [FloorRing Value]
    {library : IngestLibrary Value}
    (parsesJson : ParsesJson library)
    {first later : List Char}
    (object : JsonText.IsObject (first ++ later))
    (printable : ∀ char ∈ first ++ later, isPrintable char = true)
    (cut : later ≠ []) :
    acceptedSample? library (Utf8.encode first) = none := by
  have rejected : library.parse (Utf8.encode first) = none := by
    by_contra parsed
    have accepts := parsesJson first
      (fun char member => printable char (List.mem_append_left _ member))
      parsed
    rw [object.not_accepts_prefix cut] at accepts
    cases accepts
  rw [acceptedSample?, parseSample, rejected]

/-- The bytes of a printable text are not control characters. -/
theorem not_mem_encode_of_printable
    {text : List Char}
    (printable : ∀ char ∈ text, isPrintable char = true)
    {byte : UInt8}
    (control : byte.toNat < 32) :
    byte ∉ Utf8.encode text := by
  rw [encode_of_printable printable]
  intro member
  obtain ⟨char, inText, rfl⟩ := List.mem_map.mp member
  have bounds := printable char inText
  simp only [isPrintable, Bool.and_eq_true, decide_eq_true_eq] at bounds
  rw [Utf8.toNat_ofNat (by omega)] at control
  omega

open JsonlServer in
/-- Without a carriage return a line is handed over as it is. -/
theorem deliver_of_not_mem
    {line : Bytes}
    (nonempty : line ≠ [])
    (absent : carriageReturn ∉ line) :
    deliver line = [line] := by
  have same : stripCarriageReturn line = line :=
    if_neg fun isLast => absent (List.mem_of_getLast? isLast)
  rw [deliver, same, if_neg (by simpa using nonempty)]

section Reading

open JsonlServer

variable [Ring Value] [LinearOrder Value] [FloorRing Value]
variable {python : Interpreter Value} {dumps : Dumps Value}
variable {library : IngestLibrary Value}

/-- A line of the producer is handed over whole, and it is JSON. -/
structure ProducedLine (line : Bytes) : Prop where
  text :
    ∃ text,
      line = Utf8.encode text ∧ JsonText.IsObject text ∧
        ∀ char ∈ text, isPrintable char = true
  nonempty : line ≠ []
  plain : newline ∉ line
  delivered : deliver line = [line]

theorem producedLine_of_lineOf?
    (dumpsObjects : DumpsObjects dumps)
    {keepLabel : Bool}
    {rec : Record Value}
    {line : Bytes}
    (isLine : lineOf? python dumps keepLabel rec = some line) :
    ProducedLine line := by
  obtain ⟨clean, _, isLine⟩ := Option.bind_eq_some_iff.mp isLine
  obtain ⟨_, _, isLine⟩ := Option.bind_eq_some_iff.mp isLine
  obtain rfl := Option.some.inj isLine
  have object := dumpsObjects.object clean
  have printable := dumpsObjects.printable clean
  have nonempty : Utf8.encode (dumps clean) ≠ [] := by
    rw [encode_of_printable printable, ne_eq, List.map_eq_nil_iff]
    intro empty
    simpa [empty] using object.opened
  exact {
    text := ⟨_, rfl, object, printable⟩
    nonempty
    plain := not_mem_encode_of_printable printable (by decide)
    delivered := deliver_of_not_mem nonempty
      (not_mem_encode_of_printable printable (by decide)) }

/-- A part of a line is accepted only if it is the whole line. -/
theorem acceptedSamples_flush
    (parsesJson : ParsesJson library)
    {line tail : Bytes}
    (produced : ProducedLine line)
    (isPart : tail <+: line) :
    tail = line ∨ acceptedSamples library (flush tail) = [] := by
  obtain ⟨text, rfl, object, printable⟩ := produced.text
  obtain ⟨first, later, rfl, rfl⟩ :=
    exists_of_prefix_encode printable isPart
  by_cases cut : later = []
  · exact Or.inl (by rw [cut, List.append_nil])
  · right
    have rejected := acceptedSample?_of_cut parsesJson object printable cut
    rw [flush]
    split
    · rfl
    · simp [acceptedSamples, rejected]

/-- Into the bytes no more whole lines fit than there are. -/
theorem le_of_payloads_prefix
    {lines : List Bytes}
    {count : Nat}
    {tail : Bytes}
    (isTail : ∀ line, lines[count]? = some line → tail.length ≤ line.length)
    {whole : Nat}
    (inside : whole ≤ lines.length)
    (received :
      payloads (lines.take whole) <+: payloads (lines.take count) ++ tail) :
    whole ≤ count := by
  by_contra more
  have isLine : lines[count]? = some lines[count] :=
    List.getElem?_eq_getElem (by omega)
  have next :
      payloads (lines.take (count + 1)) <+: payloads (lines.take whole) := by
    have front :
        lines.take (count + 1) <+: lines.take whole :=
      List.take_prefix_take_left (by omega)
    obtain ⟨others, isTake⟩ := front
    rw [← isTake, payloads_append]
    exact List.prefix_append _ _
  have longer := (next.trans received).length_le
  rw [List.take_add_one, isLine, Option.toList_some, payloads_append,
    payloads_cons, payloads_nil] at longer
  simp only [List.length_append, List.length_singleton, List.length_nil]
    at longer
  have shorter := isTail _ isLine
  omega

/-- The lines that the ingest accepts of a broken stream are the first ones. -/
theorem acceptedSamples_handleClient
    (parsesJson : ParsesJson library)
    {lines : List Bytes}
    (produced : ∀ line ∈ lines, ProducedLine line)
    (short : ∀ line ∈ lines, line.length ≤ runawayLimit)
    {results : List RecvResult}
    (isPrefix : receivedBytes results <+: payloads lines) :
    ∃ count,
      count ≤ lines.length ∧
        acceptedSamples library (handleClient results) =
          acceptedSamples library (lines.take count) ∧
        ∀ whole ≤ lines.length,
          payloads (lines.take whole) <+: receivedBytes results →
            whole ≤ count := by
  obtain ⟨count, tail, most, isBytes, isTail⟩ :=
    exists_of_prefix_payloads isPrefix
  have front (line : Bytes) (member : line ∈ lines.take count) :
      line ∈ lines :=
    List.mem_of_mem_take member
  have delivered : (lines.take count).flatMap deliver = lines.take count := by
    rw [List.flatMap_congr fun line member =>
      (produced line (front line member)).delivered]
    exact List.flatMap_singleton' _
  have handed (plainTail : newline ∉ tail)
      (shortTail : tail.length ≤ runawayLimit) :
      handleClient results = lines.take count ++ flush tail :=
    (handleClient_of_lines
      (fun line member => (produced line (front line member)).plain) plainTail
      (fun line member => short line (front line member)) shortTail
      isBytes).trans (by rw [delivered])
  have fits
      (atMost :
        ∀ line, lines[count]? = some line → tail.length ≤ line.length)
      (whole : Nat)
      (inside : whole ≤ lines.length)
      (received : payloads (lines.take whole) <+: receivedBytes results) :
      whole ≤ count :=
    le_of_payloads_prefix atMost inside (isBytes ▸ received)
  rcases isTail with rfl | ⟨line, isLine, isPart⟩
  · refine ⟨count, most, ?_, fits fun _ _ => Nat.zero_le _⟩
    rw [handed List.not_mem_nil (Nat.zero_le _)]
    exact congrArg _ (List.append_nil _)
  · have member := List.mem_of_getElem? isLine
    have inside : count < lines.length :=
      (List.getElem?_eq_some_iff.mp isLine).choose
    have isProduced := produced line member
    have handedPart :=
      handed (fun inTail => isProduced.plain (isPart.subset inTail))
        (isPart.length_le.trans (short line member))
    have most := fits fun other isOther => by
      obtain rfl := Option.some.inj (isOther.symm.trans isLine)
      exact isPart.length_le
    rcases acceptedSamples_flush parsesJson isProduced isPart with
      rfl | nothing
    · refine ⟨count + 1, inside, ?_, fun whole fit received =>
        (most whole fit received).trans (Nat.le_succ _)⟩
      rw [handedPart, List.take_add_one, isLine, flush,
        if_neg (by simpa using isProduced.nonempty)]
      rfl
    · refine ⟨count, inside.le, ?_, most⟩
      rw [handedPart]
      exact List.filterMap_append.trans
        ((congrArg _ nothing).trans (List.append_nil _))

/-- What the ingest makes of a record. -/
def acceptedRecord?
    (python : Interpreter Value)
    (dumps : Dumps Value)
    (library : IngestLibrary Value)
    (rec : Record Value) : Option (Sample Value) :=
  (lineOf? python dumps false rec).bind (acceptedSample? library)

/-- One call of `stream_frames`, and what the ingest reads on its connection. -/
structure Connection (Value : Type) where
  frames : List (Record Value)
  loop : Bool
  passes : Nat
  results : List SendAll
  received : List RecvResult

/-- What the call has done. -/
def Connection.stream
    (python : Interpreter Value)
    (dumps : Dumps Value)
    (connection : Connection Value) : Stream :=
  (streamFrames python dumps false connection.loop connection.frames
    connection.passes connection.results).1

/-- The records in the order in which they are sent. -/
def Connection.records (connection : Connection Value) : List (Record Value) :=
  sequence connection.loop connection.frames connection.passes

/-- Of one connection the ingest accepts the first records. -/
theorem Connection.exists_count
    (dumpsObjects : DumpsObjects dumps)
    (parsesJson : ParsesJson library)
    (connection : Connection Value)
    (short :
      ∀ rec ∈ connection.records, ∀ line,
        lineOf? python dumps false rec = some line →
          line.length ≤ runawayLimit)
    (delivered :
      receivedBytes connection.received <+:
        (connection.stream python dumps).taken) :
    ∃ count,
      count ≤ (connection.stream python dumps).sent + 1 ∧
        (receivedBytes connection.received =
            (connection.stream python dumps).taken →
          (connection.stream python dumps).sent ≤ count) ∧
        acceptedSamples library (handleClient connection.received) =
          (connection.records.take count).filterMap
            (acceptedRecord? python dumps library) := by
  obtain ⟨lines, progress, partly⟩ :=
    streamPasses_partlySent python dumps false connection.loop
      connection.frames connection.passes ⟨[], 0⟩ connection.results
  have taken : (connection.stream python dumps).taken = progress :=
    partly.taken
  obtain ⟨sent, isSent, whole, least, most⟩ := partly.counted
  have isSent : (connection.stream python dumps).sent = sent :=
    isSent.trans (Nat.zero_add sent)
  have ofRecord (line : Bytes) (member : line ∈ lines) :
      ∃ rec ∈ connection.records,
        lineOf? python dumps false rec = some line := by
    obtain ⟨rec, inTake, isLine⟩ :=
      exists_of_mem_of_mapM_eq_some partly.begun member
    exact ⟨rec, List.mem_of_mem_take inTake, isLine⟩
  obtain ⟨count, inside, accepted, fits⟩ :=
    acceptedSamples_handleClient parsesJson
      (fun line member =>
        (ofRecord line member).elim fun _ isLine =>
          producedLine_of_lineOf? dumpsObjects isLine.2)
      (fun line member =>
        (ofRecord line member).elim fun rec isLine =>
          short rec isLine.1 line isLine.2)
      ((taken ▸ delivered).trans partly.within)
  refine ⟨count, by omega, ?_, ?_⟩
  · intro all
    rw [isSent]
    exact fits sent least (by rw [all, taken]; exact whole)
  · have ofFirst := take_of_mapM_eq_some partly.begun count
    rw [List.take_take, Nat.min_eq_left inside] at ofFirst
    rw [accepted, acceptedSamples,
      filterMap_eq_of_mapM_eq_some (acceptedSample? library) ofFirst]
    rfl

/--
Over any number of connections, each broken off at any byte, the ingest accepts
of each the first records, and one at most that the producer did not count.
-/
theorem broken_streams_accept_whole_records
    (python : Interpreter Value)
    (dumpsObjects : DumpsObjects dumps)
    (parsesJson : ParsesJson library)
    {connections : List (Connection Value)}
    (short :
      ∀ connection ∈ connections, ∀ rec ∈ connection.records, ∀ line,
        lineOf? python dumps false rec = some line →
          line.length ≤ runawayLimit)
    (delivered :
      ∀ connection ∈ connections,
        receivedBytes connection.received <+:
          (connection.stream python dumps).taken)
    {accepts : List AcceptResult}
    (served :
      accepts.filterMap AcceptResult.served? =
        connections.map Connection.received) :
    ∃ count : Connection Value → Nat,
      (∀ connection ∈ connections,
        count connection ≤ (connection.stream python dumps).sent + 1 ∧
          (receivedBytes connection.received =
              (connection.stream python dumps).taken →
            (connection.stream python dumps).sent ≤ count connection)) ∧
        acceptedSamples library (serveForever accepts) =
          connections.flatMap fun connection =>
            (connection.records.take (count connection)).filterMap
              (acceptedRecord? python dumps library) := by
  have each (connection : Connection Value) :
      ∃ count,
        connection ∈ connections →
          count ≤ (connection.stream python dumps).sent + 1 ∧
            (receivedBytes connection.received =
                (connection.stream python dumps).taken →
              (connection.stream python dumps).sent ≤ count) ∧
            acceptedSamples library (handleClient connection.received) =
              (connection.records.take count).filterMap
                (acceptedRecord? python dumps library) := by
    by_cases member : connection ∈ connections
    · obtain ⟨count, spec⟩ :=
        connection.exists_count dumpsObjects parsesJson
          (short connection member) (delivered connection member)
      exact ⟨count, fun _ => spec⟩
    · exact ⟨0, fun isMember => absurd isMember member⟩
  choose count spec using each
  refine ⟨count, fun connection member =>
    ⟨(spec connection member).1, (spec connection member).2.1⟩, ?_⟩
  rw [acceptedSamples, serveForever_eq, served, List.flatMap_map,
    List.filterMap_flatMap]
  exact List.flatMap_congr fun connection member =>
    (spec connection member).2.2

end Reading

end Accepting

section BrokenOff

/-! A record that is sent twice, the second time in part. -/

/-- What `json.dumps` writes for the record. -/
def recordText : List Char :=
  ("\x7b\"ts_unix_ms\": 1710000000000, \"link_id\": \"L1\", " ++
    "\"channel_id\": \"C1\", \"osnr_db\": 18.4, " ++
    "\"ber\": 1.2e-06, \"laser_bias_ma\": 42.0\x7d").toList

theorem link_ne_empty : "L1" ≠ "" := by
  decide

def namedRecord : TelemetryRecord Rat :=
  sentRecord (some ⟨"L1", link_ne_empty⟩)

/-- The texts of the record and of an empty dictionary. -/
def recordDumps : Dumps Rat := fun clean =>
  if clean = namedRecord.cleaned then recordText else ['\x7b', '\x7d']

/-- The parser on the record's line. -/
def recordLibrary : IngestLibrary Rat where
  parse line :=
    if line = Utf8.encode recordText then some (documentOf namedRecord.cleaned)
    else none
  log10 _ := -6
  sqrt value := value
  castOutOfRange _ := 0

theorem recordDumps_objects : DumpsObjects recordDumps where
  object clean := by
    rw [recordDumps]
    split
    · exact ⟨by decide +kernel, by decide +kernel, by decide +kernel⟩
    · exact ⟨rfl, rfl, rfl⟩
  printable clean := by
    rw [recordDumps]
    split
    · exact List.all_eq_true.mp (by decide +kernel)
    · exact List.all_eq_true.mp rfl

theorem recordLibrary_parsesJson : ParsesJson recordLibrary := by
  intro text _ parsed
  have isLine : Utf8.encode text = Utf8.encode recordText := by
    by_contra other
    exact parsed (if_neg other)
  have isRecord := congrArg Utf8.decode isLine
  rw [Utf8.decode_encode, Utf8.decode_encode] at isRecord
  rw [isRecord]
  decide +kernel

/-- Twice the record, broken off within the second line. -/
def brokenOff : Connection Rat where
  frames := [namedRecord.toDict, namedRecord.toDict]
  loop := false
  passes := 1
  results := [.sent, .closed 20]
  received := [
    .received
      ⟨Utf8.encode recordText ++ [newline] ++
          (Utf8.encode recordText).take 20,
        by decide +kernel, by decide +kernel⟩,
    .closed]

theorem lineOf?_namedRecord :
    lineOf? plainInterpreter recordDumps false namedRecord.toDict =
      some (Utf8.encode recordText) := by
  rw [lineOf?, TelemetryRecord.cleanRecord_toDict]
  decide +kernel

/-- The first record is accepted, and of the second nothing or all. -/
theorem broken_streams_accept_whole_records_twice :
    ∃ count,
      1 ≤ count ∧ count ≤ 2 ∧
        acceptedSamples recordLibrary
            (JsonlServer.serveForever
              [.interrupted, .accepted brokenOff.received]) =
          (brokenOff.records.take count).filterMap
            (acceptedRecord? plainInterpreter recordDumps recordLibrary) := by
  have stream :
      brokenOff.stream plainInterpreter recordDumps =
        ⟨JsonlServer.receivedBytes brokenOff.received, 1⟩ := by
    simp only [Connection.stream, streamFrames, brokenOff, streamPasses,
      streamPass, lineOf?_namedRecord]
    decide +kernel
  obtain ⟨count, counts, accepted⟩ :=
    @broken_streams_accept_whole_records _ _ _ _ recordDumps recordLibrary
      plainInterpreter recordDumps_objects recordLibrary_parsesJson [brokenOff]
      (by
        intro connection member rec inRecords line isLine
        obtain rfl := List.mem_singleton.mp member
        have isNamed : rec = namedRecord.toDict := by
          simpa [Connection.records, sequence, brokenOff] using inRecords
        rw [isNamed, lineOf?_namedRecord] at isLine
        obtain rfl := Option.some.inj isLine
        decide +kernel)
      (by
        intro connection member
        obtain rfl := List.mem_singleton.mp member
        rw [stream])
      [.interrupted, .accepted brokenOff.received]
      (by simp [List.filterMap_cons, JsonlServer.AcceptResult.served?])
  obtain ⟨atMost, atLeast⟩ := counts brokenOff (List.mem_singleton_self _)
  have atLeast := atLeast (by rw [stream])
  rw [stream] at atMost atLeast
  rw [List.flatMap_singleton] at accepted
  exact ⟨count brokenOff, atLeast, atMost, accepted⟩

end BrokenOff

end Producer

end OpticsSoftfail
