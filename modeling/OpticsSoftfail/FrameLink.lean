import Mathlib.Data.List.Forall2
import OpticsSoftfail.DownstreamClient
import OpticsSoftfail.InferReader

namespace OpticsSoftfail

/-!
# Frames from the ingest to infer

The downstream client writes one frame to a line, and a connection that breaks
may carry the beginning of a line.  Infer's reader takes what a broken
connection leaves as one more line.  It decodes as JSON only if it is a whole
frame, so every call puts its frame across once or not at all.
-/

namespace FrameLink

open InferReader JsonText

/-- A frame as the ingest dumps it, and as infer's interpreter can load it. -/
structure IsFrameDump
    (exceedsLimits : List Char → Bool)
    (text : List Char) : Prop where
  object : IsObject text
  plain : newline ∉ Utf8.encode text
  fits : (Utf8.encode text).length < maxLineBytes
  /-- Its numbers are short and it is nested two levels deep. -/
  withinLimits : exceedsLimits text = false

/-- The bytes of a frame dump. -/
def IsFrameLine
    (exceedsLimits : List Char → Bool)
    (line : Bytes) : Prop :=
  ∃ text, line = Utf8.encode text ∧ IsFrameDump exceedsLimits text

/-- The frames as they are sent, each on a line of its own. -/
def wire (texts : List (List Char)) : Bytes :=
  texts.flatMap fun text => Utf8.encode text ++ [newline]

/-- The items whose flag is set. -/
def select {Item : Type} : List Bool → List Item → List Item
  | flag :: flags, item :: items =>
      if flag then item :: select flags items else select flags items
  | _, _ => []

theorem select_sublist
    {Item : Type}
    (flags : List Bool)
    (items : List Item) :
    (select flags items).Sublist items := by
  induction items generalizing flags with
  | nil =>
      cases flags <;> simp [select]
  | cons item items inductionHypothesis =>
      cases flags with
      | nil =>
          simp [select]
      | cons flag flags =>
          cases flag with
          | true =>
              exact (inductionHypothesis flags).cons_cons item
          | false =>
              exact (inductionHypothesis flags).cons item

section Lines

/-! ## Whole and broken lines -/

variable {exceedsLimits : List Char → Bool} {text : List Char}

/-- From an object's bracket on, `strip` removes only what is behind. -/
theorem strip_of_object
    {first missing later : List Char}
    (object : IsObject (first ++ missing))
    (begins : first = [] →
      ∀ char ∈ later.head?, isSpace char = false) :
    strip (first ++ later) = (first ++ later).rdropWhile isSpace := by
  rw [strip]
  congr 1
  cases first with
  | nil =>
      cases later with
      | nil =>
          rfl
      | cons char rest =>
          have notSpace : isSpace char = false := begins rfl char rfl
          exact List.dropWhile_cons_of_neg (by simp [notSpace])
  | cons bracket rest =>
      obtain rfl : bracket = '\x7b' := Option.some.inj object.opened
      exact List.dropWhile_cons_of_neg (by decide)

theorem rdropWhile_object (object : IsObject text) :
    text.rdropWhile isSpace = text := by
  obtain ⟨first, rfl⟩ : ∃ first, first ++ ['\x7d'] = text :=
    ⟨text.dropLast, List.dropLast_append_getLast? _ object.closed⟩
  exact List.rdropWhile_concat_neg _ _ _ (by decide)

theorem ne_nil_of_object (object : IsObject text) : text ≠ [] := by
  rintro rfl
  exact absurd object.opened (by simp)

theorem strip_object (object : IsObject text) :
    strip text = text := by
  rw [← List.append_nil text] at object
  have stripped : strip (text ++ []) =
      (text ++ []).rdropWhile isSpace :=
    strip_of_object object (by simp)
  rw [List.append_nil] at object stripped
  rw [stripped, rdropWhile_object object]

theorem strip_object_newline (object : IsObject text) :
    strip (text ++ ['\n']) = text := by
  have nonempty := ne_nil_of_object object
  have whole := rdropWhile_object object
  rw [← List.append_nil text] at object
  rw [strip_of_object object fun empty => absurd empty nonempty,
    List.rdropWhile_concat_pos _ _ _ (by decide), whole]

/-- What is left of a broken object does not decode. -/
theorem not_accepts_of_isCut
    (object : IsObject text)
    {decoded : List Char}
    (isCut : Utf8.IsCut text decoded) :
    accepts (strip decoded) = false := by
  obtain ⟨first, missing, rfl, notEmpty, rfl | rfl⟩ := isCut
  · have stripped : strip (decoded ++ []) =
        (decoded ++ []).rdropWhile isSpace :=
      strip_of_object object (by simp)
    rw [List.append_nil] at stripped
    obtain ⟨spaces, isFirst⟩ := List.rdropWhile_prefix isSpace decoded
    rw [← isFirst, List.append_assoc] at object
    rw [stripped]
    exact object.not_accepts_prefix (by simp [notEmpty])
  · have begins : ∀ char ∈ [Utf8.replacement].head?,
        isSpace char = false := by
      intro char isHead
      rw [← Option.some.inj isHead]
      rfl
    rw [strip_of_object object fun _ => begins,
      List.rdropWhile_concat_neg _ _ _ (by decide)]
    exact object.not_accepts_prefix_replacement notEmpty

/-! ## What the handler makes of them -/

theorem handleLine_dump
    (dump : IsFrameDump exceedsLimits text)
    (task : ClientTask) :
    handleLine exceedsLimits task text =
      { task with decoded := task.decoded ++ [text] } := by
  have isValue : loads exceedsLimits text = .value := by
    simp [loads, dump.withinLimits, dump.object.accepted]
  rw [handleLine, isValue]

/-- A whole line is decoded, and the loop goes on. -/
theorem handleRaw_line
    (dump : IsFrameDump exceedsLimits text)
    (task : ClientTask) :
    handleRaw exceedsLimits task (Utf8.encode text ++ [newline]) =
      { task with decoded := task.decoded ++ [text] } := by
  have isText : strip (Utf8.decode (Utf8.encode text ++ [newline])) =
      text := by
    rw [Utf8.decode_encode_append]
    exact strip_object_newline dump.object
  rw [handleRaw, isText]
  simp [ne_nil_of_object dump.object, handleLine_dump dump]

/-- A whole frame is decoded also if the connection ends before its newline. -/
theorem handleRaw_unterminated
    (dump : IsFrameDump exceedsLimits text)
    (task : ClientTask) :
    (handleRaw exceedsLimits task (Utf8.encode text)).decoded =
      task.decoded ++ [text] := by
  have isText : strip (Utf8.decode (Utf8.encode text)) = text := by
    rw [Utf8.decode_encode, strip_object dump.object]
  rw [handleRaw, isText]
  have nonempty := ne_nil_of_object dump.object
  simp only [List.isEmpty_eq_false_iff.mpr nonempty,
    handleLine_dump dump, Bool.false_eq_true, if_false]
  split <;> rfl

/-- The beginning of a frame is not decoded. -/
theorem handleRaw_broken
    (dump : IsFrameDump exceedsLimits text)
    (task : ClientTask)
    {raw later : Bytes}
    (split : raw ++ later = Utf8.encode text)
    (cut : later ≠ []) :
    (handleRaw exceedsLimits task raw).decoded = task.decoded := by
  have rejected := not_accepts_of_isCut dump.object
    (Utf8.decode_of_prefix split cut)
  have ignored : (handleLine exceedsLimits task
      (strip (Utf8.decode raw))).decoded = task.decoded := by
    cases limits : exceedsLimits (strip (Utf8.decode raw)) <;>
      simp [handleLine, loads, limits, rejected]
  rw [handleRaw]
  by_cases blank : (strip (Utf8.decode raw)).isEmpty = true
  · simp only [blank, if_true]
    split <;> rfl
  · simp only [blank]
    split <;> exact ignored

end Lines

section Streams

/-! ## The stream of one connection -/

variable {exceedsLimits : List Char → Bool}

theorem wire_append_singleton
    (texts : List (List Char))
    (text : List Char) :
    wire (texts ++ [text]) =
      wire texts ++ (Utf8.encode text ++ [newline]) := by
  simp [wire]

/-- Whole lines are decoded in order, and the loop goes on. -/
theorem rawLines_wire_append
    {texts : List (List Char)}
    (dumps : ∀ text ∈ texts, IsFrameDump exceedsLimits text)
    (later : Bytes) :
    rawLines (wire texts ++ later) =
      texts.map (fun text => Utf8.encode text ++ [newline]) ++
        rawLines later := by
  induction texts with
  | nil =>
      rfl
  | cons text rest inductionHypothesis =>
      obtain ⟨dump, restDumps⟩ := List.forall_mem_cons.mp dumps
      have shape : wire (text :: rest) ++ later =
          Utf8.encode text ++ newline :: (wire rest ++ later) := by
        simp [wire]
      rw [shape, rawLines_append_newline dump.plain,
        inductionHypothesis restDumps]
      rfl

theorem foldl_readRaw_wire
    {texts : List (List Char)}
    (dumps : ∀ text ∈ texts, IsFrameDump exceedsLimits text)
    (decoded : List (List Char)) :
    (texts.map fun text => Utf8.encode text ++ [newline]).foldl
        (readRaw exceedsLimits) ⟨decoded, true⟩ =
      ⟨decoded ++ texts, true⟩ := by
  induction texts generalizing decoded with
  | nil =>
      simp
  | cons text rest inductionHypothesis =>
      obtain ⟨dump, restDumps⟩ := List.forall_mem_cons.mp dumps
      rw [List.map_cons, List.foldl_cons, readRaw, if_pos rfl,
        handleRaw_line dump, inductionHypothesis restDumps]
      simp

/-- Whole lines are decoded, whatever follows on the connection. -/
theorem framesOf_wire_append
    {texts : List (List Char)}
    (dumps : ∀ text ∈ texts, IsFrameDump exceedsLimits text)
    (later : Bytes) :
    framesOf exceedsLimits (wire texts ++ later) =
      ((rawLines later).foldl (readRaw exceedsLimits)
        ⟨texts, true⟩).decoded := by
  rw [framesOf, rawLines_wire_append dumps, List.foldl_append,
    foldl_readRaw_wire dumps, List.nil_append]

theorem framesOf_wire
    {texts : List (List Char)}
    (dumps : ∀ text ∈ texts, IsFrameDump exceedsLimits text) :
    framesOf exceedsLimits (wire texts) = texts := by
  have frames := framesOf_wire_append dumps []
  rw [List.append_nil] at frames
  exact frames

/-- A broken line adds its frame only if just the newline is missing. -/
theorem framesOf_wire_broken
    {texts : List (List Char)}
    {text : List Char}
    (dumps : ∀ text ∈ texts, IsFrameDump exceedsLimits text)
    (dump : IsFrameDump exceedsLimits text)
    {raw later : Bytes}
    (split : raw ++ later = Utf8.encode text) :
    framesOf exceedsLimits (wire texts ++ raw) =
      texts ++ if later.isEmpty then [text] else [] := by
  have plain : newline ∉ raw := by
    intro member
    exact dump.plain (split ▸ List.mem_append_left _ member)
  rw [framesOf_wire_append dumps, rawLines_of_not_mem plain]
  by_cases begun : raw = []
  · have missing : later ≠ [] := by
      rintro rfl
      rw [begun, List.append_nil] at split
      have isText := Utf8.decode_encode text
      rw [← split] at isText
      exact ne_nil_of_object dump.object isText.symm
    simp [begun, missing]
  · rw [List.isEmpty_eq_false_iff.mpr begun]
    simp only [Bool.false_eq_true, if_false, List.foldl_cons,
      List.foldl_nil, readRaw, if_true]
    by_cases cut : later = []
    · rw [cut, List.append_nil] at split
      rw [cut, split, handleRaw_unterminated dump]
      rfl
    · rw [handleRaw_broken dump _ split cut]
      simp [cut]

/-- No line of the stream is beyond the limit. -/
theorem withinLimit_wire_append
    {texts : List (List Char)}
    (dumps : ∀ text ∈ texts, IsFrameDump exceedsLimits text)
    {later : Bytes}
    (within : WithinLimit later) :
    WithinLimit (wire texts ++ later) := by
  induction texts with
  | nil =>
      exact within
  | cons text rest inductionHypothesis =>
      obtain ⟨dump, restDumps⟩ := List.forall_mem_cons.mp dumps
      have shape : wire (text :: rest) ++ later =
          Utf8.encode text ++ newline :: (wire rest ++ later) := by
        simp [wire]
      rw [shape, WithinLimit,
        LineFraming.frame_append_separator dump.plain]
      exact List.forall_mem_cons.mpr
        ⟨Nat.le_of_lt dump.fits, inductionHypothesis restDumps⟩

theorem withinLimit_of_not_mem
    {raw : Bytes}
    (plain : newline ∉ raw)
    (fits : raw.length ≤ maxLineBytes) :
    WithinLimit raw := by
  rw [WithinLimit, LineFraming.frame_of_not_mem plain]
  simpa using fits

end Streams

section Calls

/-! ## The connections of a sender -/

variable {exceedsLimits : List Char → Bool}

/-- The frames of all connections, in order. -/
def framesOver
    (exceedsLimits : List Char → Bool)
    (client : DownstreamClient) : List (List Char) :=
  client.connections.flatMap (framesOf exceedsLimits)

theorem framesOver_eq (client : DownstreamClient) :
    framesOver exceedsLimits client =
      client.closed.flatMap (framesOf exceedsLimits) ++
        framesOf exceedsLimits (client.fd.getD []) := by
  rcases client with ⟨lastAttemptS, closed, _ | stream⟩
  · simp [framesOver, DownstreamClient.connections, framesOf, rawLines,
      LineFraming.frame]
  · simp [framesOver, DownstreamClient.connections]

/-- No line of any connection is beyond the limit. -/
def AllWithinLimit (client : DownstreamClient) : Prop :=
  ∀ stream ∈ client.connections, WithinLimit stream

/-- Between the calls the open connection carries whole lines only. -/
structure Sound
    (exceedsLimits : List Char → Bool)
    (client : DownstreamClient) : Prop where
  within : ∀ stream ∈ client.closed, WithinLimit stream
  clean : ∃ texts,
    (∀ text ∈ texts, IsFrameDump exceedsLimits text) ∧
      client.fd.getD [] = wire texts

theorem sound_initial :
    Sound exceedsLimits DownstreamClient.initial where
  within := by
    simp [DownstreamClient.initial]
  clean := ⟨[], by simp, rfl⟩

theorem withinLimit_nil : WithinLimit [] :=
  withinLimit_of_not_mem (by simp) (by simp)

theorem allWithinLimit_of_closed
    {client : DownstreamClient}
    (closed : ∀ stream ∈ client.closed, WithinLimit stream)
    (opened : WithinLimit (client.fd.getD [])) :
    AllWithinLimit client := by
  intro stream member
  rcases List.mem_append.mp member with isClosed | isOpen
  · exact closed stream isClosed
  · rw [Option.mem_toList] at isOpen
    rw [isOpen] at opened
    exact opened

theorem allWithinLimit_of_sound
    {client : DownstreamClient}
    (sound : Sound exceedsLimits client) :
    AllWithinLimit client := by
  obtain ⟨texts, dumps, isWire⟩ := sound.clean
  apply allWithinLimit_of_closed sound.within
  rw [isWire, ← List.append_nil (wire texts)]
  exact withinLimit_wire_append dumps withinLimit_nil

/-- Without a connection there is nothing that is not a whole line. -/
theorem sound_of_none
    {client : DownstreamClient}
    (within : ∀ stream ∈ client.closed, WithinLimit stream)
    (isNone : client.fd = none) :
    Sound exceedsLimits client where
  within := within
  clean := ⟨[], by simp, by rw [isNone]; rfl⟩

/-- What a call does to the frames that cross. -/
structure Crosses
    (exceedsLimits : List Char → Bool)
    (client next : DownstreamClient)
    (text : List Char)
    (returned : Option Bool) : Prop where
  within : AllWithinLimit next
  frames : ∃ got : Bool,
    framesOver exceedsLimits next =
        framesOver exceedsLimits client ++
          (if got then [text] else []) ∧
      (returned = some true → got = true)
  sound : returned ≠ none → Sound exceedsLimits next

/-- A broken line on the connection adds its frame or nothing. -/
theorem broken_crosses
    {client : DownstreamClient}
    {text : List Char}
    (sound : Sound exceedsLimits client)
    (dump : IsFrameDump exceedsLimits text)
    {count : Nat}
    (short : count < (Utf8.encode text ++ [newline]).length) :
    let stream := client.fd.getD [] ++
      (Utf8.encode text ++ [newline]).take count
    WithinLimit stream ∧
      ∃ got : Bool,
        framesOf exceedsLimits stream =
          framesOf exceedsLimits (client.fd.getD []) ++
            if got then [text] else [] := by
  obtain ⟨texts, dumps, isWire⟩ := sound.clean
  have atMost : count ≤ (Utf8.encode text).length := by
    rw [List.length_append, List.length_singleton] at short
    omega
  have split := List.take_append_drop count (Utf8.encode text)
  have plain : newline ∉ (Utf8.encode text).take count := fun member =>
    dump.plain (List.mem_of_mem_take member)
  have fits : ((Utf8.encode text).take count).length ≤ maxLineBytes := by
    have dumpFits := dump.fits
    rw [List.length_take]
    omega
  simp only [isWire, List.take_append_of_le_length atMost]
  rw [framesOf_wire_broken dumps dump split, framesOf_wire dumps]
  exact ⟨withinLimit_wire_append dumps
    (withinLimit_of_not_mem plain fits), _, rfl⟩

/-- Every call puts its frame across once or not at all. -/
theorem crosses_of_sends
    {client next : DownstreamClient}
    {text : List Char}
    {returned : Option Bool}
    (sound : Sound exceedsLimits client)
    (dump : IsFrameDump exceedsLimits text)
    (sends : DownstreamClient.Sends client
      (Utf8.encode text ++ [newline]) next returned) :
    Crosses exceedsLimits client next text returned := by
  cases sends with
  | unreachable wasNone sameClosed isNone =>
      have nextSound : Sound exceedsLimits next :=
        sound_of_none (sameClosed ▸ sound.within) isNone
      refine ⟨allWithinLimit_of_sound nextSound,
        ⟨false, ?_, by simp⟩, fun _ => nextSound⟩
      rw [framesOver_eq, framesOver_eq, sameClosed, isNone, wasNone]
      simp
  | whole sameClosed isOpen =>
      obtain ⟨texts, dumps, isWire⟩ := sound.clean
      have moreDumps : ∀ other ∈ texts ++ [text],
          IsFrameDump exceedsLimits other := by
        simpa [or_imp, forall_and] using ⟨dumps, dump⟩
      have isMore : next.fd.getD [] = wire (texts ++ [text]) := by
        rw [isOpen, isWire, wire_append_singleton]
        rfl
      have nextSound : Sound exceedsLimits next :=
        ⟨sameClosed ▸ sound.within, _, moreDumps, isMore⟩
      refine ⟨allWithinLimit_of_sound nextSound,
        ⟨true, ?_, by simp⟩, fun _ => nextSound⟩
      rw [framesOver_eq, framesOver_eq, sameClosed, isMore,
        framesOf_wire moreDumps, isWire, framesOf_wire dumps]
      simp
  | broken short isClosed isNone =>
      obtain ⟨within, got, frames⟩ := broken_crosses sound dump short
      have closedWithin : ∀ stream ∈ next.closed, WithinLimit stream := by
        rw [isClosed]
        simpa [or_imp, forall_and] using ⟨sound.within, within⟩
      have nextSound : Sound exceedsLimits next :=
        sound_of_none closedWithin isNone
      refine ⟨allWithinLimit_of_sound nextSound,
        ⟨got, ?_, by simp⟩, fun _ => nextSound⟩
      have nothing : framesOf exceedsLimits [] = [] := rfl
      rw [framesOver_eq, framesOver_eq, isClosed, isNone,
        List.flatMap_append, List.flatMap_singleton, frames]
      simp [nothing]
  | blocked short sameClosed isOpen =>
      -- the call never returns, so nothing has to hold after it
      obtain ⟨within, got, frames⟩ := broken_crosses sound dump short
      refine ⟨?_, ⟨got, ?_, by simp⟩, fun returns => absurd rfl returns⟩
      · apply allWithinLimit_of_closed (sameClosed ▸ sound.within)
        rw [isOpen]
        exact within
      · rw [framesOver_eq, framesOver_eq, sameClosed, isOpen,
          Option.getD_some, frames, List.append_assoc]

/-- Calls that are not performed put nothing across. -/
theorem select_none
    {Item Other : Type}
    (others : List Other)
    (items : List Item) :
    select (others.map fun _ => false) items = [] := by
  induction others generalizing items with
  | nil =>
      rfl
  | cons other rest inductionHypothesis =>
      cases items with
      | nil =>
          rfl
      | cons item items =>
          exact inductionHypothesis items

/-- What a call returned, against whether its frame came across. -/
def Reported (returned : Option Bool) (got : Bool) : Prop :=
  returned = some true → got = true

/-- The frames of a whole run, chosen from its lines by flags. -/
theorem sendAll_frames
    {client : DownstreamClient}
    {calls : List SendCall}
    (sound : Sound exceedsLimits client)
    (lines : ∀ call ∈ calls, IsFrameLine exceedsLimits call.line) :
    AllWithinLimit (client.sendAll calls).1 ∧
      ∃ received,
        List.Forall₂ Reported (client.sendAll calls).2 received ∧
          (framesOver exceedsLimits (client.sendAll calls).1).map
              Utf8.encode =
            (framesOver exceedsLimits client).map Utf8.encode ++
              select received (calls.map SendCall.line) := by
  induction calls generalizing client with
  | nil =>
      exact ⟨allWithinLimit_of_sound sound, [], .nil,
        (List.append_nil _).symm⟩
  | cons call later inductionHypothesis =>
      obtain ⟨⟨text, isLine, dump⟩, laterLines⟩ :=
        List.forall_mem_cons.mp lines
      have sends := client.sendLine_sends call
      rw [isLine] at sends
      obtain ⟨within, ⟨got, frames, reported⟩, nextSound⟩ :=
        crosses_of_sends sound dump sends
      rcases sent : client.sendLine call with ⟨next, returned⟩
      rw [sent] at within frames reported nextSound
      rw [DownstreamClient.sendAll, sent]
      cases returned with
      | none =>
          refine ⟨within, got :: later.map fun _ => false, ?_, ?_⟩
          · refine .cons reported ?_
            rw [List.forall₂_map_left_iff, List.forall₂_map_right_iff,
              List.forall₂_same]
            exact fun _ _ returns => absurd returns (by simp)
          · rw [frames, List.map_cons, select, select_none, isLine]
            cases got <;> simp
      | some returned =>
          obtain ⟨laterWithin, received, laterReported, laterFrames⟩ :=
            inductionHypothesis (nextSound (by simp)) laterLines
          refine ⟨laterWithin, got :: received,
            .cons reported laterReported, ?_⟩
          simp only
          rw [laterFrames, frames, List.map_cons, select, isLine]
          cases got <;> simp

end Calls

/-- The frames that infer decodes, over the connections in order. -/
def decodedFrames
    (exceedsLimits : List Char → Bool)
    (schedules : List (List ReaderEvent)) : List (List Char) :=
  schedules.flatMap fun events =>
    (handleClient exceedsLimits events).decoded

/-- The order of arrivals does not matter for what is decoded. -/
theorem decodedFrames_eq
    {exceedsLimits : List Char → Bool}
    {schedules : List (List ReaderEvent)}
    (within :
      ∀ stream ∈ schedules.map received, WithinLimit stream) :
    decodedFrames exceedsLimits schedules =
      (schedules.map received).flatMap (framesOf exceedsLimits) := by
  rw [decodedFrames, List.flatMap_map]
  apply List.flatMap_congr
  intro events member
  exact (handleClient_spec exceedsLimits
    (within _ (List.mem_map_of_mem member))).1

/--
Whatever `connect` and `send` do, and however the bytes of each connection
arrive: the frames that infer decodes, over the connections in order, are byte
for byte the lines of some of the calls, each at most once and in order, and
among them is every line for which `send_line` returned true.
-/
theorem frames_cross_at_most_once
    (exceedsLimits : List Char → Bool)
    (calls : List SendCall)
    (schedules : List (List ReaderEvent))
    (lines : ∀ call ∈ calls, IsFrameLine exceedsLimits call.line)
    (delivered :
      schedules.map received =
        (DownstreamClient.initial.sendAll calls).1.connections) :
    ∃ crossed,
      List.Forall₂ Reported
          (DownstreamClient.initial.sendAll calls).2 crossed ∧
        (decodedFrames exceedsLimits schedules).map Utf8.encode =
          select crossed (calls.map SendCall.line) ∧
        ((decodedFrames exceedsLimits schedules).map
            Utf8.encode).Sublist
          (calls.map SendCall.line) := by
  obtain ⟨within, crossed, reported, frames⟩ :=
    sendAll_frames sound_initial lines
  rw [AllWithinLimit, ← delivered] at within
  rw [framesOver, ← delivered, ← decodedFrames_eq within] at frames
  refine ⟨crossed, reported, frames, ?_⟩
  rw [frames]
  exact select_sublist _ _

section Reconnects

/-! ## A run with three connections -/

/-- A frame with one field, whose name takes two bytes. -/
def fieldFrame (digit : Char) : List Char :=
  ['\x7b', '"', 'é', '"', ':', digit, '\x7d']

/-- Texts that may hold an integer of more than 4300 digits. -/
def exceedsDigits (text : List Char) : Bool :=
  decide (4300 < text.length)

/--
The first frame is sent in two parts, the second breaks within a character, the
third comes too early for a new connection, the fourth loses its newline only,
and the last one blocks.
-/
def reconnectingCalls : List SendCall :=
  [⟨Utf8.encode (fieldFrame '1'), 1, some [.refused, .connected],
      [.wrote 2, .interrupted, .wrote 99]⟩,
    ⟨Utf8.encode (fieldFrame '2'), 5 / 4, none, [.wrote 2, .failed]⟩,
    ⟨Utf8.encode (fieldFrame '3'), 3 / 2, some [.connected], []⟩,
    ⟨Utf8.encode (fieldFrame '4'), 3, some [.connected],
      [.wrote 7, .failed]⟩,
    ⟨Utf8.encode (fieldFrame '5'), 5, some [.connected], [.wrote 99]⟩,
    ⟨Utf8.encode (fieldFrame '6'), 6, none, [.wrote 0]⟩]

/-- How the bytes of the three connections arrive. -/
def reconnectingSchedules : List (List ReaderEvent) :=
  [[.received ((Utf8.encode (fieldFrame '1')).take 4), .resumed,
      .received ((Utf8.encode (fieldFrame '1')).drop 4 ++
        newline :: (Utf8.encode (fieldFrame '2')).take 3),
      .resumed],
    [.received (Utf8.encode (fieldFrame '4'))],
    [.resumed,
      .received (Utf8.encode (fieldFrame '5') ++
        newline :: (Utf8.encode (fieldFrame '6')).take 1)]]

theorem isFrameLine_reconnecting :
    ∀ call ∈ reconnectingCalls, IsFrameLine exceedsDigits call.line := by
  have isLine
      (digit : Char)
      (accepted : accepts (fieldFrame digit) = true)
      (plain : newline ∉ Utf8.encode (fieldFrame digit))
      (fits :
        (Utf8.encode (fieldFrame digit)).length < maxLineBytes) :
      IsFrameLine exceedsDigits (Utf8.encode (fieldFrame digit)) :=
    ⟨_, rfl, ⟨accepted, rfl, rfl⟩, plain, fits, rfl⟩
  simp only [reconnectingCalls, List.forall_mem_cons,
    List.not_mem_nil, false_implies, implies_true, and_true]
  refine ⟨isLine '1' ?_ ?_ ?_, isLine '2' ?_ ?_ ?_,
    isLine '3' ?_ ?_ ?_, isLine '4' ?_ ?_ ?_,
    isLine '5' ?_ ?_ ?_, isLine '6' ?_ ?_ ?_⟩ <;>
    decide +kernel

/-- The first, the fourth and the fifth frame come across. -/
theorem frames_cross_at_most_once_reconnecting :
    decodedFrames exceedsDigits reconnectingSchedules =
        [fieldFrame '1', fieldFrame '4', fieldFrame '5'] ∧
      (DownstreamClient.initial.sendAll reconnectingCalls).2 =
        [some true, some false, some false, some false, some true,
          none] ∧
      ∃ crossed,
        List.Forall₂ Reported
            (DownstreamClient.initial.sendAll reconnectingCalls).2
            crossed ∧
          (decodedFrames exceedsDigits reconnectingSchedules).map
              Utf8.encode =
            select crossed (reconnectingCalls.map SendCall.line) ∧
          ((decodedFrames exceedsDigits reconnectingSchedules).map
              Utf8.encode).Sublist
            (reconnectingCalls.map SendCall.line) :=
  ⟨by decide +kernel, by decide +kernel,
    frames_cross_at_most_once exceedsDigits reconnectingCalls
      reconnectingSchedules isFrameLine_reconnecting
      (by decide +kernel)⟩

end Reconnects

end FrameLink

end OpticsSoftfail
