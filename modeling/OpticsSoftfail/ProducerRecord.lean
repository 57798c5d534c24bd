import OpticsSoftfail.Binary64
import OpticsSoftfail.Dict
import OpticsSoftfail.IngestTimestamp

namespace OpticsSoftfail

/-!
# Records on their way from the producer to the ingest

`_clean_record` turns a record of a pandas table into the object that is sent
as one line of JSON, and `parse_sample` reads that line.  A field that the table
does not have is a NaN in the record.
-/

namespace Producer

variable {Value : Type}

/-- A Python `float`. -/
inductive PyFloat (Value : Type) where
  | finite (value : Value)
  | nan
  | inf (negative : Bool)
  deriving Repr, DecidableEq

/-- A value of a record. -/
inductive PyValue (Value : Type) where
  | text (value : String)
  | integer (value : Int)
  | float (value : PyFloat Value)
  deriving Repr, DecidableEq

/-- Conversions of the interpreter; `none` is a `ValueError`. -/
structure Interpreter (Value : Type) where
  /-- `str` of a finite float. -/
  floatText : Value → String
  /-- `int` of a text. -/
  textInt : String → Option Int
  /-- `float` of a text. -/
  textFloat : String → Option (PyFloat Value)

/-- `RAW_COLUMNS`. -/
def RAW_COLUMNS : List String :=
  ["ts_unix_ms", "link_id", "channel_id", "osnr_db", "ber",
    "laser_bias_ma", "edfa_pump_ma", "rx_power_dbm", "label"]

/-- `str(val)`. -/
def str (python : Interpreter Value) : PyValue Value → String
  | .text value => value
  | .integer value => toString value
  | .float (.finite value) => python.floatText value
  | .float .nan => "nan"
  | .float (.inf negative) => if negative then "-inf" else "inf"

/-- `int(val)`; `none` is an exception. -/
def int
    [Ring Value] [LinearOrder Value] [FloorRing Value]
    (python : Interpreter Value) : PyValue Value → Option Int
  | .text value => python.textInt value
  | .integer value => some value
  | .float (.finite value) => some (truncateToInt value)
  | .float _ => none

/-- `float(val)`; `none` is an exception. -/
def float
    [IntCast Value]
    (python : Interpreter Value) : PyValue Value → Option (PyFloat Value)
  | .text value => python.textFloat value
  | .integer value =>
      -- Beyond the doubles this is an `OverflowError`.
      if value.natAbs < Binary64.overflow then
        some (.finite (toDouble value : Int))
      else
        none
  | .float value => some value

/-- What is stored for a field: an exception, nothing, or a value. -/
def cleanField
    [Ring Value] [LinearOrder Value] [FloorRing Value]
    (python : Interpreter Value)
    (key : String)
    (val : PyValue Value) : Option (Option (PyValue Value)) :=
  if key ∈ ["link_id", "channel_id", "label"] then
    some (some (.text (str python val)))
  else if key = "ts_unix_ms" then
    (int python val).map fun number => some (.integer number)
  else
    (float python val).map fun fval =>
      match fval with
      | .finite _ => some (.float fval)
      | _ => none

/-- `out[key] = ...`, unless the loop continues without it. -/
def store
    (out : Dict String (PyValue Value))
    (key : String) : Option (PyValue Value) → Dict String (PyValue Value)
  | none => out
  | some val => out.set key val

/-- One iteration of the loop in `_clean_record`. -/
def cleanStep
    [Ring Value] [LinearOrder Value] [FloorRing Value]
    (python : Interpreter Value)
    (rec : Dict String (PyValue Value))
    (keepLabel : Bool)
    (out : Dict String (PyValue Value))
    (key : String) : Option (Dict String (PyValue Value)) :=
  if key = "label" ∧ keepLabel = false then some out
  else
    match rec.get? key with
    | none => some out
    | some val => (cleanField python key val).map (store out key)

/-- `_clean_record`; `none` is an exception. -/
def cleanRecord
    [Ring Value] [LinearOrder Value] [FloorRing Value]
    (python : Interpreter Value)
    (rec : Dict String (PyValue Value))
    (keepLabel : Bool) : Option (Dict String (PyValue Value)) :=
  RAW_COLUMNS.foldlM (cleanStep python rec keepLabel) Dict.empty

/-- The JSON value of a cleaned value. -/
def PyValue.toJson [IntCast Value] : PyValue Value → Json Value
  | .text value => .string value
  | .integer value => .number (.finite value)
  | .float (.finite value) => .number (.finite value)
  | .float _ => .number .nonFinite

/--
The ingest parses the line to an object with the members of the cleaned record:
`json.dumps` and the parser carry texts and numbers over unchanged.
-/
def Transmits
    [IntCast Value]
    (library : IngestLibrary Value)
    (clean : Dict String (PyValue Value))
    (line : List UInt8) : Prop :=
  ∃ doc,
    library.parse line = some doc ∧ doc.isObject = true ∧
      ∀ key, doc.find? key = (clean.get? key).map PyValue.toJson

/-! ## Records of a pandas table -/

/-- A text that is not empty. -/
abbrev ProperText : Type :=
  { text : String // text ≠ "" }

/-- A finite number, from a column of integers or of floats. -/
inductive Reading (Value : Type) where
  | integer (value : Int) (hasDouble : value.natAbs < Binary64.overflow)
  | float (value : Value)
  deriving Repr, DecidableEq

/-- The number, as a double. -/
def Reading.value [IntCast Value] : Reading Value → Value
  | .integer value _ => (toDouble value : Int)
  | .float value => value

/-- A record whose fields are proper values or missing. -/
structure TelemetryRecord (Value : Type) where
  tsUnixMs : Int
  ts_nonneg : 0 ≤ tsUnixMs
  ts_le : tsUnixMs ≤ 2 ^ 53
  linkId : Option ProperText
  channelId : Option ProperText
  osnrDb : Option (Reading Value)
  ber : Option (Reading Value)
  laserBiasMa : Option (Reading Value)
  edfaPumpMa : Option (Reading Value)
  rxPowerDbm : Option (Reading Value)
  label : Option ProperText

namespace TelemetryRecord

/-- A text field of the record; a missing one is NaN. -/
def textField : Option ProperText → PyValue Value
  | some text => .text text.val
  | none => .float .nan

/-- A number field of the record; a missing one is NaN. -/
def numberField : Option (Reading Value) → PyValue Value
  | some (.integer value _) => .integer value
  | some (.float value) => .float (.finite value)
  | none => .float .nan

/-- The record as `to_dict(orient="records")` hands it over. -/
def toDict (record : TelemetryRecord Value) :
    Dict String (PyValue Value) where
  entries := [
    ("ts_unix_ms", .integer record.tsUnixMs),
    ("link_id", textField record.linkId),
    ("channel_id", textField record.channelId),
    ("osnr_db", numberField record.osnrDb),
    ("ber", numberField record.ber),
    ("laser_bias_ma", numberField record.laserBiasMa),
    ("edfa_pump_ma", numberField record.edfaPumpMa),
    ("rx_power_dbm", numberField record.rxPowerDbm),
    ("label", textField record.label)]
  keysNodup := by
    simp only [List.map_cons, List.map_nil]
    decide

/-- The text sent for a text field. -/
def sentText (field : Option ProperText) : String :=
  (field.map Subtype.val).getD "nan"

/-- The number sent for a number field, if it is sent. -/
def sentNumber [IntCast Value] (field : Option (Reading Value)) :
    Option (PyValue Value) :=
  field.map fun reading => .float (.finite reading.value)

/-- What `_clean_record` makes of the record. -/
def cleaned [IntCast Value] (record : TelemetryRecord Value) :
    Dict String (PyValue Value) :=
  let texts :=
    ((Dict.empty.set "ts_unix_ms" (.integer record.tsUnixMs)).set
      "link_id" (.text (sentText record.linkId))).set
      "channel_id" (.text (sentText record.channelId))
  let required :=
    store (store (store texts
      "osnr_db" (sentNumber record.osnrDb))
      "ber" (sentNumber record.ber))
      "laser_bias_ma" (sentNumber record.laserBiasMa)
  store (store required
    "edfa_pump_ma" (sentNumber record.edfaPumpMa))
    "rx_power_dbm" (sentNumber record.rxPowerDbm)

section Cleaning

variable [Ring Value] [LinearOrder Value] [FloorRing Value]

theorem cleanField_textField
    {python : Interpreter Value}
    {key : String}
    (isText : key ∈ ["link_id", "channel_id", "label"])
    (field : Option ProperText) :
    cleanField python key (textField field) =
      some (some (.text (sentText field))) := by
  cases field <;> simp [cleanField, isText, textField, str, sentText]

theorem cleanField_numberField
    {python : Interpreter Value}
    {key : String}
    (notText : key ∉ ["link_id", "channel_id", "label"])
    (notTs : key ≠ "ts_unix_ms")
    (field : Option (Reading Value)) :
    cleanField python key (numberField field) =
      some (sentNumber field) := by
  rw [cleanField, if_neg notText, if_neg notTs]
  rcases field with _ | ⟨value, hasDouble⟩ | value
  · rfl
  · simp [numberField, float, hasDouble, sentNumber, Reading.value]
  · rfl

/-- No field of such a record raises an exception. -/
theorem cleanRecord_toDict
    (python : Interpreter Value)
    (record : TelemetryRecord Value) :
    cleanRecord python record.toDict false = some record.cleaned := by
  have tsField :
      cleanField python "ts_unix_ms" (.integer record.tsUnixMs) =
        some (some (.integer record.tsUnixMs)) :=
    rfl
  simp [cleanRecord, RAW_COLUMNS, List.foldlM, cleanStep, toDict,
    Dict.get?, Dict.lookupEntries, tsField, cleanField_textField,
    cleanField_numberField]
  rfl

end Cleaning

/-- What a lookup sees after a field has been stored or left out. -/
theorem get?_store
    (out : Dict String (PyValue Value))
    (key query : String)
    (val : Option (PyValue Value)) :
    (store out key val).get? query =
      if query = key then val.or (out.get? key) else out.get? query := by
  cases val with
  | none =>
      by_cases same : query = key <;> simp [store, same]
  | some stored =>
      simp [store, Dict.get?_set]

/-- The sample of the record under the given ids, if it is complete. -/
def sampleOf
    [Ring Value] [LinearOrder Value]
    (record : TelemetryRecord Value)
    (linkId channelId : String) : Option (Sample Value) :=
  match record.osnrDb, record.ber, record.laserBiasMa with
  | some osnrDb, some ber, some laserBiasMa =>
      if 0 < ber.value then
        some {
          tsUnixMs := record.tsUnixMs
          linkId := linkId
          channelId := channelId
          osnrDb := osnrDb.value
          ber := ber.value
          laserBiasMa := laserBiasMa.value
          edfaPumpMa :=
            (record.edfaPumpMa.map Reading.value).getD kEdfaPumpDefault
          rxPowerDbm :=
            (record.rxPowerDbm.map Reading.value).getD kRxPowerDefault }
      else
        none
  | _, _, _ => none

/-- The sample that the ingest ought to have, by the table of fields. -/
def documentedSample?
    [Ring Value] [LinearOrder Value]
    (record : TelemetryRecord Value) : Option (Sample Value) :=
  match record.linkId with
  | none => none
  | some linkId =>
      record.sampleOf linkId.val
        ((record.channelId.map Subtype.val).getD "C1")

section Transmission

variable {doc : Json Value}

theorem hasText_iff
    {key : String}
    {field : Option ProperText}
    (found : doc.find? key = some (.string (sentText field)))
    {text : String} :
    doc.HasText key text ↔ text = sentText field := by
  have nonempty : sentText field ≠ "" := by
    rcases field with _ | ⟨text, proper⟩
    · decide
    · exact proper
  rw [Json.HasText, found]
  constructor
  · rintro ⟨same, _⟩
    simpa using same.symm
  · rintro rfl
    exact ⟨rfl, nonempty⟩

theorem hasNumber_iff
    [IntCast Value]
    {key : String}
    {field : Option (Reading Value)}
    (found : doc.find? key = (sentNumber field).map PyValue.toJson)
    {value : Value} :
    doc.HasNumber key value ↔ field.map Reading.value = some value := by
  rw [Json.HasNumber, found]
  cases field <;> simp [sentNumber, PyValue.toJson]

/-- The members of the object that the ingest parses. -/
structure Members [IntCast Value]
    (record : TelemetryRecord Value)
    (doc : Json Value) : Prop where
  isObject : doc.isObject = true
  tsUnixMs :
    doc.find? "ts_unix_ms" = some (.number (.finite record.tsUnixMs))
  linkId : doc.find? "link_id" = some (.string (sentText record.linkId))
  channelId :
    doc.find? "channel_id" = some (.string (sentText record.channelId))
  osnrDb :
    doc.find? "osnr_db" = (sentNumber record.osnrDb).map PyValue.toJson
  ber : doc.find? "ber" = (sentNumber record.ber).map PyValue.toJson
  laserBiasMa :
    doc.find? "laser_bias_ma" =
      (sentNumber record.laserBiasMa).map PyValue.toJson
  edfaPumpMa :
    doc.find? "edfa_pump_ma" =
      (sentNumber record.edfaPumpMa).map PyValue.toJson
  rxPowerDbm :
    doc.find? "rx_power_dbm" =
      (sentNumber record.rxPowerDbm).map PyValue.toJson

theorem exists_members
    [IntCast Value]
    {library : IngestLibrary Value}
    {record : TelemetryRecord Value}
    {line : List UInt8}
    (transmits : Transmits library record.cleaned line) :
    ∃ doc, library.parse line = some doc ∧ record.Members doc := by
  obtain ⟨doc, parsed, isObject, found⟩ := transmits
  refine ⟨doc, parsed, isObject, ?_, ?_, ?_, ?_, ?_, ?_, ?_, ?_⟩ <;>
    simp [found, cleaned, get?_store, Dict.get?_set, PyValue.toJson]

variable [Ring Value] [LinearOrder Value]

/-- A sample is that of the record field by field. -/
theorem sampleOf_eq_some_iff
    {record : TelemetryRecord Value}
    {linkId channelId : String}
    {sample : Sample Value} :
    record.sampleOf linkId channelId = some sample ↔
      record.osnrDb.map Reading.value = some sample.osnrDb ∧
        record.ber.map Reading.value = some sample.ber ∧
        0 < sample.ber ∧
        record.laserBiasMa.map Reading.value = some sample.laserBiasMa ∧
        sample.tsUnixMs = record.tsUnixMs ∧
        sample.linkId = linkId ∧
        sample.channelId = channelId ∧
        sample.edfaPumpMa =
          (record.edfaPumpMa.map Reading.value).getD kEdfaPumpDefault ∧
        sample.rxPowerDbm =
          (record.rxPowerDbm.map Reading.value).getD kRxPowerDefault := by
  rcases sample with
    ⟨tsUnixMs, link, channel, osnrDb, ber, laserBiasMa, edfaPumpMa,
      rxPowerDbm⟩
  rw [sampleOf]
  split
  · rename_i osnr measured bias isOsnr isMeasured isBias
    by_cases positive : 0 < measured.value
    · simp only [isOsnr, isMeasured, isBias, positive, if_true,
        Option.map_some, Option.some.injEq, Sample.mk.injEq]
      constructor
      · rintro ⟨rfl, rfl, rfl, rfl, rfl, rfl, rfl, rfl⟩
        exact ⟨rfl, rfl, positive, rfl, rfl, rfl, rfl, rfl, rfl⟩
      · rintro ⟨rfl, rfl, _, rfl, rfl, rfl, rfl, rfl, rfl⟩
        exact ⟨rfl, rfl, rfl, rfl, rfl, rfl, rfl, rfl⟩
    · simp only [isMeasured, positive, if_false, reduceCtorEq, false_iff,
        Option.map_some, Option.some.injEq]
      rintro ⟨_, rfl, isPositive, _⟩
      exact positive isPositive
  · rename_i incomplete
    simp only [reduceCtorEq, false_iff]
    rintro ⟨hasOsnr, hasBer, _, hasBias, _⟩
    obtain ⟨osnr, isOsnr, _⟩ := Option.map_eq_some_iff.mp hasOsnr
    obtain ⟨measured, isMeasured, _⟩ := Option.map_eq_some_iff.mp hasBer
    obtain ⟨bias, isBias, _⟩ := Option.map_eq_some_iff.mp hasBias
    exact incomplete osnr measured bias isOsnr isMeasured isBias

/-- The document carries a sample of the record under the ids sent. -/
theorem Members.carries_iff
    [IsStrictOrderedRing Value] [FloorRing Value]
    {record : TelemetryRecord Value}
    (members : record.Members doc)
    {sample : Sample Value} :
    InGrammar doc ∧ Carries doc sample ↔
      record.sampleOf (sentText record.linkId)
        (sentText record.channelId) = some sample := by
  have hasTs (ts : Value) :
      doc.HasNumber "ts_unix_ms" ts ↔ (record.tsUnixMs : Value) = ts := by
    rw [Json.HasNumber, members.tsUnixMs]
    simp
  have hasLink (text : String) :
      doc.HasText "link_id" text ↔ text = sentText record.linkId :=
    hasText_iff members.linkId
  have hasChannel (text : String) :
      doc.HasText "channel_id" text ↔
        some (sentText record.channelId) = some text := by
    rw [hasText_iff members.channelId, Option.some.injEq, eq_comm]
  have hasOsnr := @hasNumber_iff Value doc _ _ _ members.osnrDb
  have hasBer := @hasNumber_iff Value doc _ _ _ members.ber
  have hasBias := @hasNumber_iff Value doc _ _ _ members.laserBiasMa
  have hasPump := @hasNumber_iff Value doc _ _ _ members.edfaPumpMa
  have hasPower := @hasNumber_iff Value doc _ _ _ members.rxPowerDbm
  rw [sampleOf_eq_some_iff]
  constructor
  · rintro ⟨grammar, carries⟩
    obtain ⟨ts, isTs, stored⟩ := carries.tsUnixMs
    obtain ⟨ber, isBer, positive⟩ := grammar.ber
    obtain rfl := (hasTs ts).mp isTs
    obtain rfl : ber = sample.ber := isBer.unique carries.ber
    exact ⟨hasOsnr.mp carries.osnrDb, hasBer.mp carries.ber, positive,
      hasBias.mp carries.laserBiasMa,
      stored.trans (truncateToInt_intCast record.tsUnixMs),
      (hasLink _).mp carries.linkId,
      (orDefault_iff hasChannel).mp carries.channelId,
      (orDefault_iff @hasPump).mp carries.edfaPumpMa,
      (orDefault_iff @hasPower).mp carries.rxPowerDbm⟩
  · rintro ⟨osnrDb, ber, positive, laserBiasMa, tsUnixMs, linkId, channelId,
      edfaPumpMa, rxPowerDbm⟩
    have isTs := (hasTs record.tsUnixMs).mpr rfl
    have carries : Carries doc sample := {
      tsUnixMs :=
        ⟨_, isTs, tsUnixMs.trans (truncateToInt_intCast _).symm⟩
      linkId := (hasLink _).mpr linkId
      channelId := (orDefault_iff hasChannel).mpr channelId
      osnrDb := hasOsnr.mpr osnrDb
      ber := hasBer.mpr ber
      laserBiasMa := hasBias.mpr laserBiasMa
      edfaPumpMa := (orDefault_iff @hasPump).mpr edfaPumpMa
      rxPowerDbm := (orDefault_iff @hasPower).mpr rxPowerDbm }
    exact ⟨{
      isObject := members.isObject
      tsUnixMs := ⟨_, isTs, Int.cast_nonneg record.ts_nonneg⟩
      linkId := ⟨_, carries.linkId⟩
      osnrDb := ⟨_, carries.osnrDb⟩
      ber := ⟨_, carries.ber, positive⟩
      laserBiasMa := ⟨_, carries.laserBiasMa⟩ }, carries⟩

/-- What the ingest makes of the line of a record. -/
theorem acceptedSample?_eq_sampleOf
    [IsStrictOrderedRing Value] [FloorRing Value]
    {library : IngestLibrary Value}
    {record : TelemetryRecord Value}
    {line : List UInt8}
    (transmits : Transmits library record.cleaned line) :
    acceptedSample? library line =
      record.sampleOf (sentText record.linkId)
        (sentText record.channelId) := by
  obtain ⟨doc, parsed, members⟩ :=
    exists_members transmits
  have fits (ts : Value) (hasTs : doc.HasNumber "ts_unix_ms" ts) :
      ts < 2 ^ 63 := by
    obtain rfl : (record.tsUnixMs : Value) = ts := by
      simpa [Json.HasNumber, members.tsUnixMs] using hasTs
    have bound : record.tsUnixMs < 2 ^ 63 :=
      lt_of_le_of_lt record.ts_le (by norm_num)
    exact_mod_cast (Int.cast_lt (R := Value)).mpr bound
  ext sample
  rw [acceptedSample?_eq_some_iff, ← members.carries_iff]
  constructor
  · rintro ⟨other, otherParsed, accepted⟩
    obtain rfl : doc = other :=
      Option.some.inj (parsed.symm.trans otherParsed)
    exact (validateSample_eq_ok_iff_carries fits).mp accepted
  · intro carries
    exact ⟨doc, parsed, (validateSample_eq_ok_iff_carries fits).mpr carries⟩

/-- A required number is missing, or `ber` is not positive. -/
def Incomplete (record : TelemetryRecord Value) : Prop :=
  record.osnrDb = none ∨ record.ber = none ∨ record.laserBiasMa = none ∨
    ∃ ber, record.ber = some ber ∧ ber.value ≤ 0

theorem sampleOf_eq_none_iff
    {record : TelemetryRecord Value}
    {linkId channelId : String} :
    record.sampleOf linkId channelId = none ↔ record.Incomplete := by
  rw [sampleOf, Incomplete]
  split
  · rename_i osnr measured bias isOsnr isMeasured isBias
    simp [isOsnr, isMeasured, isBias]
  · rename_i incomplete
    refine iff_of_true rfl ?_
    by_contra complete
    push Not at complete
    obtain ⟨hasOsnr, hasBer, hasBias, _⟩ := complete
    obtain ⟨osnr, isOsnr⟩ := Option.ne_none_iff_exists'.mp hasOsnr
    obtain ⟨measured, isMeasured⟩ := Option.ne_none_iff_exists'.mp hasBer
    obtain ⟨bias, isBias⟩ := Option.ne_none_iff_exists'.mp hasBias
    exact incomplete osnr measured bias isOsnr isMeasured isBias

/-- The ids of a sample are seen, if there is a sample. -/
theorem sampleOf_congr_iff
    {record : TelemetryRecord Value}
    {firstLink firstChannel secondLink secondChannel : String} :
    record.sampleOf firstLink firstChannel =
        record.sampleOf secondLink secondChannel ↔
      (firstLink = secondLink ∧ firstChannel = secondChannel) ∨
        record.Incomplete := by
  cases isSample : record.sampleOf firstLink firstChannel with
  | none =>
      have incomplete := sampleOf_eq_none_iff.mp isSample
      simp [sampleOf_eq_none_iff.mpr incomplete, incomplete]
  | some sample =>
      have complete : ¬ record.Incomplete := by
        intro incomplete
        have isNone : record.sampleOf firstLink firstChannel = none :=
          sampleOf_eq_none_iff.mpr incomplete
        simp [isSample] at isNone
      obtain ⟨osnr, ber, positive, bias, ts, rfl, rfl, rest⟩ :=
        sampleOf_eq_some_iff.mp isSample
      rw [eq_comm, sampleOf_eq_some_iff]
      simp [osnr, ber, positive, bias, ts, rest, complete]

/--
Producer and ingest agree on a record exactly when its ids are present, or when
it is rejected anyway.
-/
theorem producer_ingest_agree_iff
    [IsStrictOrderedRing Value] [FloorRing Value]
    (python : Interpreter Value)
    (record : TelemetryRecord Value) :
    ∃ clean,
      cleanRecord python record.toDict false = some clean ∧
        ∀ library line,
          Transmits library clean line →
            (acceptedSample? library line = record.documentedSample? ↔
              (record.linkId.isSome ∧ record.channelId.isSome) ∨
                record.Incomplete) := by
  refine ⟨record.cleaned, cleanRecord_toDict python record, ?_⟩
  intro library line transmits
  rw [acceptedSample?_eq_sampleOf transmits]
  cases hasLink : record.linkId with
  | none =>
      simp [documentedSample?, hasLink, sampleOf_eq_none_iff]
  | some linkId =>
      cases hasChannel : record.channelId with
      | none =>
          simp [documentedSample?, hasLink, hasChannel, sentText,
            sampleOf_congr_iff]
      | some channelId =>
          simp [documentedSample?, hasLink, hasChannel, sentText]

end Transmission

end TelemetryRecord

section MissingLink

/-! A record that is complete but for its link. -/

def sentRecord (linkId : Option ProperText) : TelemetryRecord Rat where
  tsUnixMs := 1710000000000
  ts_nonneg := by decide
  ts_le := by decide
  linkId := linkId
  channelId := some ⟨"C1", by decide⟩
  osnrDb := some (.float (184 / 10))
  ber := some (.float (12 / 10 ^ 7))
  laserBiasMa := some (.integer 42 (Binary64.lt_overflow (by decide)))
  edfaPumpMa := none
  rxPowerDbm := none
  label := none

/-- The line that is sent for it, without its newline. -/
def sentLine (linkId : String) : List UInt8 :=
  ("\x7b\"ts_unix_ms\": 1710000000000, \"link_id\": \"" ++ linkId ++
    "\", \"channel_id\": \"C1\", \"osnr_db\": 18.4, " ++
    "\"ber\": 1.2e-06, \"laser_bias_ma\": 42.0\x7d").toUTF8.toList

/-- The object the line parses to. -/
def documentOf (clean : Dict String (PyValue Value)) [IntCast Value] :
    Json Value :=
  .object (clean.entries.map fun entry => (entry.1, entry.2.toJson))

theorem find?_documentOf
    [IntCast Value]
    (clean : Dict String (PyValue Value))
    (key : String) :
    (documentOf clean).find? key = (clean.get? key).map PyValue.toJson := by
  simp only [documentOf, Json.find?, Dict.get?]
  induction clean.entries with
  | nil =>
      rfl
  | cons entry rest inductionHypothesis =>
      by_cases same : entry.1 = key
      · simp [Dict.lookupEntries, same]
      · simpa [Dict.lookupEntries, same] using inductionHypothesis

/-- The conversions; this record needs none of them. -/
def plainInterpreter : Interpreter Rat where
  floatText _ := ""
  textInt _ := none
  textFloat _ := none

/-- The parser on the two lines; nothing else is computed from them here. -/
def sentLibrary : IngestLibrary Rat where
  parse line :=
    if line = sentLine "L1" then
      some (documentOf (sentRecord (some ⟨"L1", by decide⟩)).cleaned)
    else if line = sentLine "nan" then
      some (documentOf (sentRecord none).cleaned)
    else none
  log10 _ := -6
  sqrt value := value
  castOutOfRange _ := 0

theorem transmits_named :
    Transmits sentLibrary
      (sentRecord (some ⟨"L1", by decide⟩)).cleaned (sentLine "L1") :=
  ⟨_, by simp [sentLibrary], rfl, find?_documentOf _⟩

theorem transmits_nameless :
    Transmits sentLibrary (sentRecord none).cleaned (sentLine "nan") := by
  have otherLine : sentLine "nan" ≠ sentLine "L1" := by
    decide +kernel
  exact ⟨_, by simp [sentLibrary, otherLine], rfl, find?_documentOf _⟩

/-- The record with its link. -/
theorem producer_ingest_agree_iff_named :
    acceptedSample? sentLibrary (sentLine "L1") =
      (sentRecord (some ⟨"L1", by decide⟩)).documentedSample? := by
  obtain ⟨clean, cleans, agree⟩ :=
    TelemetryRecord.producer_ingest_agree_iff plainInterpreter
      (sentRecord (some ⟨"L1", by decide⟩))
  obtain rfl : (sentRecord (some ⟨"L1", by decide⟩)).cleaned = clean :=
    Option.some.inj
      ((TelemetryRecord.cleanRecord_toDict _ _).symm.trans cleans)
  exact (agree sentLibrary _ transmits_named).mpr (Or.inl ⟨rfl, rfl⟩)

/-- A record without link is accepted, with the text `nan` for its link. -/
theorem missing_link_accepted :
    ¬ ∀ (record : TelemetryRecord Rat)
        (clean : Dict String (PyValue Rat))
        (line : List UInt8),
      cleanRecord plainInterpreter record.toDict false = some clean →
        Transmits sentLibrary clean line →
          acceptedSample? sentLibrary line = record.documentedSample? := by
  intro agree
  have rejected :
      acceptedSample? sentLibrary (sentLine "nan") = none :=
    agree (sentRecord none) _ _
      (TelemetryRecord.cleanRecord_toDict plainInterpreter _)
      transmits_nameless
  rw [TelemetryRecord.acceptedSample?_eq_sampleOf transmits_nameless,
    TelemetryRecord.sampleOf_eq_none_iff] at rejected
  rcases rejected with absent | absent | absent | ⟨ber, isBer, notPositive⟩
  · cases absent
  · cases absent
  · cases absent
  · cases isBer
    norm_num [Reading.value] at notPositive

end MissingLink

end Producer

end OpticsSoftfail
