import Mathlib.Algebra.Order.Archimedean.Basic
import Mathlib.Algebra.Order.Floor.Ring
import Mathlib.Data.Rat.Floor
import OpticsSoftfail.IngestSample

namespace OpticsSoftfail

/-!
# The documents the ingest accepts

What `validate_sample` accepts, said of the document alone: which members it
needs, which it may have, and what the sample is then.  Nothing here mentions
the order in which the members are read or what the out parameter held.
-/

variable {Value : Type}

namespace Json

/-- The member is a finite number. -/
def HasNumber (doc : Json Value) (key : String) (value : Value) : Prop :=
  doc.find? key = some (.number (.finite value))

/-- The member is a text that is not empty. -/
def HasText (doc : Json Value) (key : String) (text : String) : Prop :=
  doc.find? key = some (.string text) ∧ text ≠ ""

theorem HasNumber.unique
    {doc : Json Value}
    {key : String}
    {first second : Value}
    (hasFirst : doc.HasNumber key first)
    (hasSecond : doc.HasNumber key second) :
    first = second := by
  simpa [hasFirst] using hasFirst.symm.trans hasSecond

theorem HasText.unique
    {doc : Json Value}
    {key first second : String}
    (hasFirst : doc.HasText key first)
    (hasSecond : doc.HasText key second) :
    first = second := by
  simpa [hasFirst.1] using hasFirst.1.symm.trans hasSecond.1

end Json

/-- The item there is, or the default when there is none. -/
def OrDefault {Item : Type} (has : Item → Prop) (default item : Item) : Prop :=
  has item ∨ (∀ other, ¬ has other) ∧ item = default

theorem OrDefault.unique
    {Item : Type}
    {has : Item → Prop}
    {default first second : Item}
    (single : ∀ {first second}, has first → has second → first = second)
    (isFirst : OrDefault has default first)
    (isSecond : OrDefault has default second) :
    first = second := by
  rcases isFirst with hasFirst | ⟨noFirst, firstDefault⟩ <;>
    rcases isSecond with hasSecond | ⟨noSecond, secondDefault⟩
  · exact single hasFirst hasSecond
  · exact absurd hasFirst (noSecond first)
  · exact absurd hasSecond (noFirst second)
  · rw [firstDefault, secondDefault]

/-- Where at most one item can be had, it is named or the default. -/
theorem orDefault_iff
    {Item : Type}
    {has : Item → Prop}
    {given : Option Item}
    (isGiven : ∀ item, has item ↔ given = some item)
    {default item : Item} :
    OrDefault has default item ↔ item = given.getD default := by
  simp only [OrDefault, isGiven]
  cases given with
  | none =>
      simp
  | some only =>
      simp [eq_comm]

/-- The document is an object with the required members. -/
structure InGrammar
    [Zero Value] [LE Value] [LT Value]
    (doc : Json Value) : Prop where
  isObject : doc.isObject = true
  tsUnixMs : ∃ ts, doc.HasNumber "ts_unix_ms" ts ∧ 0 ≤ ts
  linkId : ∃ text, doc.HasText "link_id" text
  osnrDb : ∃ value, doc.HasNumber "osnr_db" value
  ber : ∃ value, doc.HasNumber "ber" value ∧ 0 < value
  laserBiasMa : ∃ value, doc.HasNumber "laser_bias_ma" value

/-- A sample carries the values of a document, and defaults for the others. -/
structure Carries
    [Ring Value] [LinearOrder Value] [FloorRing Value]
    (doc : Json Value)
    (sample : Sample Value) : Prop where
  tsUnixMs :
    ∃ ts,
      doc.HasNumber "ts_unix_ms" ts ∧
        sample.tsUnixMs = truncateToInt ts
  linkId : doc.HasText "link_id" sample.linkId
  channelId : OrDefault (doc.HasText "channel_id") "C1" sample.channelId
  osnrDb : doc.HasNumber "osnr_db" sample.osnrDb
  ber : doc.HasNumber "ber" sample.ber
  laserBiasMa : doc.HasNumber "laser_bias_ma" sample.laserBiasMa
  edfaPumpMa :
    OrDefault (doc.HasNumber "edfa_pump_ma") 0 sample.edfaPumpMa
  rxPowerDbm :
    OrDefault (doc.HasNumber "rx_power_dbm") (-99) sample.rxPowerDbm

/-- The members that are read. -/
def sampleKeys : List String :=
  ["ts_unix_ms", "link_id", "channel_id", "osnr_db", "ber",
    "laser_bias_ma", "edfa_pump_ma", "rx_power_dbm"]

section Readers

/-! ## One lemma for each reader -/

theorem readNumber_eq_ok_iff
    {doc : Json Value}
    {key : String}
    {value : Value} :
    readNumber doc key = .ok value ↔ doc.HasNumber key value := by
  rw [readNumber, Json.HasNumber]
  split <;> simp_all

theorem readString_eq_ok_iff
    {doc : Json Value}
    {key out text : String} :
    readString doc key out = (text, .ok ()) ↔ doc.HasText key text := by
  rw [readString, Json.HasText]
  split
  · rename_i value found
    by_cases isEmpty : value = ""
    · simp [found, isEmpty]
    · have nonempty : value = text → text ≠ "" :=
        fun same => same ▸ isEmpty
      simpa [found, isEmpty] using nonempty
  · simp_all

theorem readTimestamp_eq_ok_iff
    [Ring Value] [LinearOrder Value] [FloorRing Value]
    {library : IngestLibrary Value}
    {doc : Json Value}
    {stored : Int} :
    readTimestamp library doc = .ok stored ↔
      ∃ ts,
        doc.HasNumber "ts_unix_ms" ts ∧ 0 ≤ ts ∧
          stored = castInt64 library ts := by
  simp only [readTimestamp, Json.HasNumber]
  split
  · rename_i value found
    by_cases negative : value < 0
    · simp [found, negative]
    · simp [found, negative, not_lt.mp negative, eq_comm]
  · rename_i found
    simp [found]
  · simp_all

/-- The channel that is read is the one of the document, or `"C1"`. -/
theorem readChannelId_spec (doc : Json Value) :
    OrDefault (doc.HasText "channel_id") "C1" (readChannelId doc) := by
  simp only [OrDefault, readChannelId, Json.HasText]
  split
  · rename_i value found
    by_cases isEmpty : value = ""
    · simp [found, isEmpty]
    · simp [found, isEmpty]
  · simp_all

/-- An optional number is the one of the document, or the fallback. -/
theorem readOptionalNumber_spec
    (doc : Json Value)
    (key : String)
    (fallback : Value) :
    OrDefault (doc.HasNumber key) fallback
      (readOptionalNumber doc key fallback) := by
  simp only [OrDefault, readOptionalNumber, Json.HasNumber]
  split <;> simp_all

end Readers

section Validation

variable [Ring Value] [LinearOrder Value] [FloorRing Value]

/-- What every reader has returned for the sample to be accepted. -/
structure Reads
    (library : IngestLibrary Value)
    (doc : Json Value)
    (out sample : Sample Value) : Prop where
  isObject : doc.isObject = true
  tsUnixMs : readTimestamp library doc = .ok sample.tsUnixMs
  linkId : readString doc "link_id" out.linkId = (sample.linkId, .ok ())
  channelId : sample.channelId = readChannelId doc
  osnrDb : readNumber doc "osnr_db" = .ok sample.osnrDb
  ber : readNumber doc "ber" = .ok sample.ber
  ber_pos : 0 < sample.ber
  laserBiasMa : readNumber doc "laser_bias_ma" = .ok sample.laserBiasMa
  edfaPumpMa :
    sample.edfaPumpMa =
      readOptionalNumber doc "edfa_pump_ma" kEdfaPumpDefault
  rxPowerDbm :
    sample.rxPowerDbm =
      readOptionalNumber doc "rx_power_dbm" kRxPowerDefault

/-- The returns between the readers, taken together. -/
theorem validateSample_eq_ok_iff
    {library : IngestLibrary Value}
    {doc : Json Value}
    {out sample : Sample Value} :
    validateSample library doc out = (sample, .ok ()) ↔
      Reads library doc out sample := by
  rcases sample with
    ⟨tsUnixMs, linkId, channelId, osnrDb, ber, laserBiasMa, edfaPumpMa,
      rxPowerDbm⟩
  constructor
  · intro accepted
    simp only [validateSample] at accepted
    -- every return before the last one has an error
    split at accepted
    · simp at accepted
    rename_i isObject
    split at accepted
    · simp at accepted
    rename_i storedTs readsTs
    split at accepted
    · simp at accepted
    rename_i storedLink _ readsLink
    split at accepted
    · simp at accepted
    rename_i storedOsnr readsOsnr
    split at accepted
    · simp at accepted
    rename_i storedBer readsBer
    split at accepted
    · simp at accepted
    rename_i positive
    split at accepted
    · simp at accepted
    rename_i storedBias readsBias
    obtain ⟨rfl, rfl, rfl, rfl, rfl, rfl, rfl, rfl⟩ := by
      simpa using accepted
    exact {
      isObject := by simpa using isObject
      tsUnixMs := readsTs
      linkId := readsLink
      channelId := rfl
      osnrDb := readsOsnr
      ber := readsBer
      ber_pos := not_le.mp positive
      laserBiasMa := readsBias
      edfaPumpMa := rfl
      rxPowerDbm := rfl }
  · intro reads
    have isPositive : ¬ ber ≤ 0 := not_le.mpr reads.ber_pos
    obtain rfl : channelId = readChannelId doc := reads.channelId
    simp [validateSample, reads.isObject, reads.tsUnixMs, reads.linkId,
      reads.osnrDb, reads.ber, reads.laserBiasMa, isPositive,
      ← reads.edfaPumpMa, ← reads.rxPowerDbm]

theorem accepted_iff_reads
    {library : IngestLibrary Value}
    {doc : Json Value}
    {out : Sample Value} :
    (validateSample library doc out).2 = .ok () ↔
      ∃ sample, Reads library doc out sample := by
  simp only [← validateSample_eq_ok_iff, Prod.ext_iff]
  simp

/-- Acceptance depends on the document only. -/
theorem exists_reads_iff_inGrammar
    {library : IngestLibrary Value}
    {doc : Json Value}
    {out : Sample Value} :
    (∃ sample, Reads library doc out sample) ↔ InGrammar doc := by
  constructor
  · rintro ⟨sample, reads⟩
    obtain ⟨ts, hasTs, nonneg, _⟩ :=
      readTimestamp_eq_ok_iff.mp reads.tsUnixMs
    exact {
      isObject := reads.isObject
      tsUnixMs := ⟨ts, hasTs, nonneg⟩
      linkId := ⟨_, readString_eq_ok_iff.mp reads.linkId⟩
      osnrDb := ⟨_, readNumber_eq_ok_iff.mp reads.osnrDb⟩
      ber := ⟨_, readNumber_eq_ok_iff.mp reads.ber, reads.ber_pos⟩
      laserBiasMa := ⟨_, readNumber_eq_ok_iff.mp reads.laserBiasMa⟩ }
  · intro grammar
    obtain ⟨ts, hasTs, nonneg⟩ := grammar.tsUnixMs
    obtain ⟨linkId, hasLink⟩ := grammar.linkId
    obtain ⟨osnrDb, hasOsnr⟩ := grammar.osnrDb
    obtain ⟨ber, hasBer, positive⟩ := grammar.ber
    obtain ⟨laserBiasMa, hasBias⟩ := grammar.laserBiasMa
    exact ⟨⟨castInt64 library ts, linkId, readChannelId doc, osnrDb, ber,
        laserBiasMa, readOptionalNumber doc "edfa_pump_ma" kEdfaPumpDefault,
        readOptionalNumber doc "rx_power_dbm" kRxPowerDefault⟩, {
      isObject := grammar.isObject
      tsUnixMs := readTimestamp_eq_ok_iff.mpr ⟨ts, hasTs, nonneg, rfl⟩
      linkId := readString_eq_ok_iff.mpr hasLink
      channelId := rfl
      osnrDb := readNumber_eq_ok_iff.mpr hasOsnr
      ber := readNumber_eq_ok_iff.mpr hasBer
      ber_pos := positive
      laserBiasMa := readNumber_eq_ok_iff.mpr hasBias
      edfaPumpMa := rfl
      rxPowerDbm := rfl }⟩

/-- `validate_sample` accepts the documents of the grammar. -/
theorem accepted_iff_inGrammar
    {library : IngestLibrary Value}
    {doc : Json Value}
    {out : Sample Value} :
    (validateSample library doc out).2 = .ok () ↔ InGrammar doc :=
  accepted_iff_reads.trans exists_reads_iff_inGrammar

/-- The sample of a document is the only one that carries its values. -/
theorem Carries.unique
    {doc : Json Value}
    {first second : Sample Value}
    (carriesFirst : Carries doc first)
    (carriesSecond : Carries doc second) :
    first = second := by
  obtain ⟨firstTs, hasFirstTs, firstStored⟩ := carriesFirst.tsUnixMs
  obtain ⟨secondTs, hasSecondTs, secondStored⟩ := carriesSecond.tsUnixMs
  have sameTs : firstTs = secondTs := hasFirstTs.unique hasSecondTs
  have sameChannel : first.channelId = second.channelId :=
    OrDefault.unique Json.HasText.unique
      carriesFirst.channelId carriesSecond.channelId
  have samePump : first.edfaPumpMa = second.edfaPumpMa :=
    OrDefault.unique Json.HasNumber.unique
      carriesFirst.edfaPumpMa carriesSecond.edfaPumpMa
  have samePower : first.rxPowerDbm = second.rxPowerDbm :=
    OrDefault.unique Json.HasNumber.unique
      carriesFirst.rxPowerDbm carriesSecond.rxPowerDbm
  have sameLink := carriesFirst.linkId.unique carriesSecond.linkId
  have sameOsnr := carriesFirst.osnrDb.unique carriesSecond.osnrDb
  have sameBer := carriesFirst.ber.unique carriesSecond.ber
  have sameBias := carriesFirst.laserBiasMa.unique carriesSecond.laserBiasMa
  cases first
  cases second
  simp_all

theorem truncateToInt_intCast [IsStrictOrderedRing Value] (value : Int) :
    truncateToInt (value : Value) = value := by
  rw [truncateToInt]
  split
  · exact Int.floor_intCast value
  · exact Int.ceil_intCast value

/-- A number that fits is cast to its integer part. -/
theorem castInt64_of_fits
    [IsStrictOrderedRing Value]
    {library : IngestLibrary Value}
    {value : Value}
    (nonneg : 0 ≤ value)
    (fits : value < 2 ^ 63) :
    castInt64 library value = truncateToInt value := by
  have isFloor : truncateToInt value = ⌊value⌋ := by
    rw [truncateToInt, if_pos nonneg]
  have below : ⌊value⌋ < 2 ^ 63 := by
    rw [Int.floor_lt]
    exact_mod_cast fits
  have above : -2 ^ 63 ≤ ⌊value⌋ :=
    le_trans (by norm_num) (Int.floor_nonneg.mpr nonneg)
  simp only [castInt64, isFloor]
  rw [if_pos ⟨above, below⟩]

/-- The accepted samples of a line, through the document it parses to. -/
theorem acceptedSample?_eq_some_iff
    {library : IngestLibrary Value}
    {line : List UInt8}
    {sample : Sample Value} :
    acceptedSample? library line = some sample ↔
      ∃ doc,
        library.parse line = some doc ∧
          validateSample library doc Sample.initial = (sample, .ok ()) := by
  rw [acceptedSample?, parseSample]
  cases library.parse line with
  | none =>
      simp
  | some doc =>
      rcases validated : validateSample library doc Sample.initial with
        ⟨stored, _ | _⟩ <;>
          simp [validated]

/-- The sample of an accepted document carries its values. -/
theorem Reads.carries
    [IsStrictOrderedRing Value]
    {library : IngestLibrary Value}
    {doc : Json Value}
    {out sample : Sample Value}
    (reads : Reads library doc out sample)
    (fits : ∀ ts, doc.HasNumber "ts_unix_ms" ts → ts < 2 ^ 63) :
    Carries doc sample := by
  obtain ⟨ts, hasTs, nonneg, isStored⟩ :=
    readTimestamp_eq_ok_iff.mp reads.tsUnixMs
  exact {
    tsUnixMs :=
      ⟨ts, hasTs, isStored.trans (castInt64_of_fits nonneg (fits ts hasTs))⟩
    linkId := readString_eq_ok_iff.mp reads.linkId
    channelId := by
      rw [reads.channelId]
      exact readChannelId_spec doc
    osnrDb := readNumber_eq_ok_iff.mp reads.osnrDb
    ber := readNumber_eq_ok_iff.mp reads.ber
    laserBiasMa := readNumber_eq_ok_iff.mp reads.laserBiasMa
    edfaPumpMa := by
      rw [reads.edfaPumpMa]
      exact readOptionalNumber_spec doc _ _
    rxPowerDbm := by
      rw [reads.rxPowerDbm]
      exact readOptionalNumber_spec doc _ _ }

/-- The accepted samples are those that carry a document of the grammar. -/
theorem validateSample_eq_ok_iff_carries
    [IsStrictOrderedRing Value]
    {library : IngestLibrary Value}
    {doc : Json Value}
    {out sample : Sample Value}
    (fits : ∀ ts, doc.HasNumber "ts_unix_ms" ts → ts < 2 ^ 63) :
    validateSample library doc out = (sample, .ok ()) ↔
      InGrammar doc ∧ Carries doc sample := by
  rw [validateSample_eq_ok_iff]
  constructor
  · intro reads
    exact ⟨exists_reads_iff_inGrammar.mp ⟨sample, reads⟩,
      reads.carries fits⟩
  · rintro ⟨grammar, carries⟩
    obtain ⟨other, reads⟩ := exists_reads_iff_inGrammar.mpr grammar
    exact carries.unique (reads.carries fits) ▸ reads

/-- Members other than the eight make no difference. -/
theorem validateSample_congr
    {library : IngestLibrary Value}
    {doc wider : Json Value}
    (sameKind : wider.isObject = doc.isObject)
    (same : ∀ key ∈ sampleKeys, wider.find? key = doc.find? key)
    (out : Sample Value) :
    validateSample library wider out = validateSample library doc out := by
  simp only [sampleKeys, List.forall_mem_cons] at same
  obtain ⟨ts, link, channel, osnr, ber, bias, pump, power, _⟩ := same
  simp only [validateSample, readTimestamp, readString, readChannelId,
    readNumber, readOptionalNumber, sameKind, ts, link, channel, osnr,
    ber, bias, pump, power]

/--
The validator accepts exactly the grammar, and the sample is then the one that
carries the document's values, whatever the out parameter held.
-/
theorem validateSample_accepts_grammar
    [IsStrictOrderedRing Value]
    (library : IngestLibrary Value)
    {doc : Json Value}
    (bounded : ∀ ts, doc.HasNumber "ts_unix_ms" ts → ts ≤ 2 ^ 53)
    (out : Sample Value) :
    ((validateSample library doc out).2 = .ok () ↔ InGrammar doc) ∧
      (∀ sample,
        validateSample library doc out = (sample, .ok ()) →
          Carries doc sample ∧
            ∀ other, Carries doc other → other = sample) ∧
      ∀ wider : Json Value,
        wider.isObject = doc.isObject →
        (∀ key ∈ sampleKeys, wider.find? key = doc.find? key) →
        validateSample library wider out =
          validateSample library doc out := by
  refine ⟨accepted_iff_inGrammar, ?_, ?_⟩
  · intro sample accepted
    have fits (ts : Value) (hasTs : doc.HasNumber "ts_unix_ms" ts) :
        ts < 2 ^ 63 :=
      lt_of_le_of_lt (bounded ts hasTs)
        (pow_lt_pow_right₀ one_lt_two (by decide))
    have carries : Carries doc sample :=
      (validateSample_eq_ok_iff.mp accepted).carries fits
    exact ⟨carries, fun other also => also.unique carries⟩
  · intro wider sameKind same
    exact validateSample_congr sameKind same out

end Validation

section Readme

/-! ## The raw sample of the README -/

/-- The line, without its newline. -/
def readmeLine : List UInt8 :=
  ("\x7b\"ts_unix_ms\": 1710000000000, \"link_id\": \"L1\", " ++
    "\"channel_id\": \"C1\", \"osnr_db\": 18.4, \"ber\": 1.2e-6, " ++
    "\"laser_bias_ma\": 42.1, \"edfa_pump_ma\": 180.0, " ++
    "\"rx_power_dbm\": -12.3, \"label\": \"nominal\"\x7d").toUTF8.toList

def readmeDocument : Json Rat :=
  .object [
    ("ts_unix_ms", .number (.finite 1710000000000)),
    ("link_id", .string "L1"),
    ("channel_id", .string "C1"),
    ("osnr_db", .number (.finite (184 / 10))),
    ("ber", .number (.finite (12 / 10 ^ 7))),
    ("laser_bias_ma", .number (.finite (421 / 10))),
    ("edfa_pump_ma", .number (.finite 180)),
    ("rx_power_dbm", .number (.finite (-123 / 10))),
    ("label", .string "nominal")]

def readmeSample : Sample Rat where
  tsUnixMs := 1710000000000
  linkId := "L1"
  channelId := "C1"
  osnrDb := 184 / 10
  ber := 12 / 10 ^ 7
  laserBiasMa := 421 / 10
  edfaPumpMa := 180
  rxPowerDbm := -123 / 10

/-- The parser on that line; nothing else is computed from it here. -/
def readmeLibrary : IngestLibrary Rat where
  parse line := if line = readmeLine then some readmeDocument else none
  log10 _ := -6
  sqrt value := value
  castOutOfRange _ := 0

theorem validateSample_readme :
    validateSample readmeLibrary readmeDocument Sample.initial =
      (readmeSample, .ok ()) := by
  decide +kernel

theorem validateSample_accepts_grammar_readme :
    InGrammar readmeDocument ∧ Carries readmeDocument readmeSample := by
  have bounded (ts : Rat)
      (hasTs : readmeDocument.HasNumber "ts_unix_ms" ts) :
      ts ≤ 2 ^ 53 := by
    have isTs : ts = 1710000000000 :=
      hasTs.unique rfl
    rw [isTs]
    norm_num
  obtain ⟨accepts, carries, _⟩ :=
    validateSample_accepts_grammar readmeLibrary bounded Sample.initial
  refine ⟨accepts.mp ?_, (carries readmeSample validateSample_readme).1⟩
  rw [validateSample_readme]

end Readme

end OpticsSoftfail
