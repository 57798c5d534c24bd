import Mathlib.Algebra.Order.Ring.Rat
import Mathlib.Data.Rat.Floor
import OpticsSoftfail.IngestHandler

namespace OpticsSoftfail

/-!
# Windows of different pairs

The handler buckets samples by the joined text `link_id|channel_id`, the
training code by the pair itself.  Both groupings agree as long as the joined
texts of the accepted samples tell their pairs apart; once two accepted lines
collide, a run of these two lines alone builds a frame out of both.
-/

variable {Value : Type}

/-- The sample carries the link and the channel of the frame. -/
def Sample.Matches
    (sample : Sample Value)
    (frame : Frame Value) : Prop :=
  sample.linkId = frame.linkId ∧ sample.channelId = frame.channelId

section

variable [Field Value] [LinearOrder Value] [FloorRing Value]

/-- The frame is built from 60 accepted samples of its own link and channel. -/
def Unmixed
    (library : IngestLibrary Value)
    (lines : List (List UInt8))
    (emission : Emission Value) : Prop :=
  ∃ frame,
    buildFrame library emission.window = some frame ∧
      emission.window.samples.length = 60 ∧
      ∀ sample ∈ emission.window.samples,
        sample ∈ acceptedSamples library lines ∧ sample.Matches frame

/-- Every frame of every run over the given lines is unmixed. -/
def NeverMixes
    (library : IngestLibrary Value)
    (allowed : Set (List UInt8)) : Prop :=
  ∀ lines,
    (∀ line ∈ lines, line ∈ allowed) →
    ∀ emission ∈ ingestEmissions library lines,
      Unmixed library lines emission

/-- No two samples accepted from the lines share a key but not a pair. -/
def KeysSeparate
    (library : IngestLibrary Value)
    (allowed : Set (List UInt8)) : Prop :=
  ∀ first ∈ allowed, ∀ second ∈ allowed,
    ∀ firstSample secondSample,
      acceptedSample? library first = some firstSample →
      acceptedSample? library second = some secondSample →
      firstSample.key = secondSample.key →
      firstSample.linkId = secondSample.linkId ∧
        firstSample.channelId = secondSample.channelId

/-- An accepted sample comes from one of the lines. -/
theorem mem_acceptedSamples
    {library : IngestLibrary Value}
    {lines : List (List UInt8)}
    {sample : Sample Value} :
    sample ∈ acceptedSamples library lines ↔
      ∃ line ∈ lines, acceptedSample? library line = some sample := by
  simp [acceptedSamples]

theorem mem_acceptedWithKey
    {library : IngestLibrary Value}
    {lines : List (List UInt8)}
    {key : String}
    {sample : Sample Value} :
    sample ∈ acceptedWithKey library lines key ↔
      sample ∈ acceptedSamples library lines ∧ sample.key = key := by
  simp [acceptedWithKey]

/-- Separating keys keep the frames unmixed. -/
theorem neverMixes_of_keysSeparate
    {library : IngestLibrary Value}
    {allowed : Set (List UInt8)}
    (separate : KeysSeparate library allowed) :
    NeverMixes library allowed := by
  intro lines fromAllowed emission member
  obtain ⟨⟨before, isPush⟩, length, own⟩ := emissionSpec member
  obtain ⟨frame, built, _, sameLink, sameChannel⟩ :=
    buildFrame_push library before emission.sample
  rw [← isPush] at built
  -- The sample just pushed is itself one of the window's samples.
  have newest : emission.sample ∈ emission.window.samples := by
    rw [isPush, Window.samples_push_eq_pending]
    simp
  obtain ⟨newestAccepted, _⟩ :=
    mem_acceptedWithKey.mp (own emission.sample newest)
  obtain ⟨newestLine, newestInLines, newestFrom⟩ :=
    mem_acceptedSamples.mp newestAccepted
  refine ⟨frame, built, length, ?_⟩
  intro sample inWindow
  obtain ⟨accepted, sameKey⟩ := mem_acceptedWithKey.mp
    (own sample inWindow)
  obtain ⟨line, inLines, isFrom⟩ := mem_acceptedSamples.mp accepted
  obtain ⟨link, channel⟩ := separate line (fromAllowed line inLines)
    newestLine (fromAllowed newestLine newestInLines)
    sample emission.sample isFrom newestFrom sameKey
  refine ⟨accepted, ?_, ?_⟩
  · rw [link, sameLink]
  · rw [channel, sameChannel]

/-- Copies of one line followed by another line. -/
def collidingRun
    (count : Nat)
    (first second : List UInt8) : List (List UInt8) :=
  List.replicate count first ++ [second]

/-- Both lines end up in the same window when their samples share a key. -/
theorem acceptedWithKey_collidingRun
    {library : IngestLibrary Value}
    {first second : List UInt8}
    {firstSample secondSample : Sample Value}
    (firstAccepted :
      acceptedSample? library first = some firstSample)
    (secondAccepted :
      acceptedSample? library second = some secondSample)
    (sameKey : firstSample.key = secondSample.key)
    (count : Nat) :
    acceptedWithKey library (collidingRun count first second)
        secondSample.key =
      List.replicate count firstSample ++ [secondSample] := by
  simp [acceptedWithKey, acceptedSamples, collidingRun,
    List.filterMap_replicate_of_some firstAccepted, secondAccepted,
    sameKey]

/-- Two lines with one key end up in the window of one frame. -/
theorem exists_emission_of_collidingRun
    {library : IngestLibrary Value}
    {first second : List UInt8}
    {firstSample secondSample : Sample Value}
    (firstAccepted :
      acceptedSample? library first = some firstSample)
    (secondAccepted :
      acceptedSample? library second = some secondSample)
    (sameKey : firstSample.key = secondSample.key) :
    ∃ emission ∈ ingestEmissions library (collidingRun 59 first second),
      firstSample ∈ emission.window.samples ∧
        secondSample ∈ emission.window.samples := by
  have windows := samples_of_key library
    (collidingRun 59 first second) secondSample.key
  rw [acceptedWithKey_collidingRun firstAccepted secondAccepted
      sameKey,
    slices_of_length (by decide) (by
      rw [List.length_append, List.length_replicate]
      rfl)] at windows
  have member :
      List.replicate 59 firstSample ++ [secondSample] ∈
        ((ingestEmissions library
            (collidingRun 59 first second)).filter
          fun emission => emission.sample.key = secondSample.key).map
            (fun emission => emission.window.samples) := by
    rw [windows]
    exact List.mem_singleton_self _
  obtain ⟨emission, isEmission, isWindow⟩ := List.mem_map.mp member
  refine ⟨emission, (List.mem_filter.mp isEmission).1, ?_, ?_⟩
  · rw [isWindow]
    exact List.mem_append_left _
      (List.mem_replicate.mpr ⟨by decide, rfl⟩)
  · rw [isWindow]
    exact List.mem_append_right _ (List.mem_singleton_self _)

/-- When that run mixes nothing, both lines carry one pair. -/
theorem samePair_of_unmixed_run
    {library : IngestLibrary Value}
    {first second : List UInt8}
    {firstSample secondSample : Sample Value}
    (firstAccepted :
      acceptedSample? library first = some firstSample)
    (secondAccepted :
      acceptedSample? library second = some secondSample)
    (sameKey : firstSample.key = secondSample.key)
    (unmixed :
      ∀ emission ∈ ingestEmissions library (collidingRun 59 first second),
        Unmixed library (collidingRun 59 first second) emission) :
    firstSample.linkId = secondSample.linkId ∧
      firstSample.channelId = secondSample.channelId := by
  obtain ⟨emission, member, hasFirst, hasSecond⟩ :=
    exists_emission_of_collidingRun firstAccepted secondAccepted sameKey
  obtain ⟨frame, _, _, matching⟩ := unmixed emission member
  obtain ⟨_, firstLink, firstChannel⟩ :=
    matching firstSample hasFirst
  obtain ⟨_, secondLink, secondChannel⟩ :=
    matching secondSample hasSecond
  exact ⟨firstLink.trans secondLink.symm,
    firstChannel.trans secondChannel.symm⟩

/--
The frames built from a stock of lines never mix two pairs exactly when the
joined keys of the samples accepted from it tell their pairs apart.
-/
theorem neverMixes_iff_keysSeparate
    (library : IngestLibrary Value)
    (allowed : Set (List UInt8)) :
    NeverMixes library allowed ↔ KeysSeparate library allowed := by
  constructor
  · intro never first firstAllowed second secondAllowed
      firstSample secondSample firstAccepted secondAccepted sameKey
    apply samePair_of_unmixed_run firstAccepted secondAccepted sameKey
    apply never
    intro line inRun
    rcases List.mem_append.mp inRun with isFirst | isSecond
    · rw [List.eq_of_mem_replicate isFirst]
      exact firstAllowed
    · rw [List.mem_singleton.mp isSecond]
      exact secondAllowed
  · exact neverMixes_of_keysSeparate

end

/-- Keys tell pairs apart when no link contains the separator. -/
theorem windowKey_injective
    {link otherLink channel otherChannel : String}
    (linkPlain : '|' ∉ link.toList)
    (otherPlain : '|' ∉ otherLink.toList)
    (sameKey :
      windowKey link channel = windowKey otherLink otherChannel) :
    link = otherLink ∧ channel = otherChannel := by
  have characters :
      link.toList ++ '|' :: channel.toList =
        otherLink.toList ++ '|' :: otherChannel.toList := by
    simpa [windowKey] using congrArg String.toList sameKey
  have beforeBar
      (text rest : List Char)
      (plain : '|' ∉ text) :
      (text ++ '|' :: rest).takeWhile (fun char => char ≠ '|') = text := by
    rw [List.takeWhile_append_of_pos]
    · simp
    · intro char member
      simp only [decide_eq_true_eq]
      rintro rfl
      exact plain member
  have sameLink : link.toList = otherLink.toList := by
    rw [← beforeBar link.toList channel.toList linkPlain, characters,
      beforeBar otherLink.toList otherChannel.toList otherPlain]
  rw [sameLink] at characters
  have sameChannel :=
    List.cons.inj (List.append_cancel_left characters)
  exact ⟨String.toList_injective sameLink,
    String.toList_injective sameChannel.2⟩

/-- Frames never mix as long as no accepted link contains the separator. -/
theorem keysSeparate_of_plain_links
    [Field Value] [LinearOrder Value] [FloorRing Value]
    {library : IngestLibrary Value}
    {allowed : Set (List UInt8)}
    (plain :
      ∀ line ∈ allowed, ∀ sample,
        acceptedSample? library line = some sample →
        '|' ∉ sample.linkId.toList) :
    KeysSeparate library allowed := by
  intro first firstAllowed second secondAllowed firstSample secondSample
    firstAccepted secondAccepted sameKey
  exact windowKey_injective
    (plain first firstAllowed firstSample firstAccepted)
    (plain second secondAllowed secondSample secondAccepted) sameKey

section Collision

/-! Two lines of different pairs and one key. -/

/-- A complete sample, as text without its braces. -/
def sampleText (linkId channelId : String) : String :=
  "\x7b\"ts_unix_ms\":1710000000000,\"link_id\":\"" ++ linkId ++
    "\",\"channel_id\":\"" ++ channelId ++
    "\",\"osnr_db\":20,\"ber\":0.001,\"laser_bias_ma\":50\x7d"

/-- The line of that sample. -/
def sampleLine (linkId channelId : String) : List UInt8 :=
  (sampleText linkId channelId).toUTF8.toList

/-- The document of that sample. -/
def sampleDocument (linkId channelId : String) : Json Rat :=
  .object [
    ("ts_unix_ms", .number (.finite 1710000000000)),
    ("link_id", .string linkId),
    ("channel_id", .string channelId),
    ("osnr_db", .number (.finite 20)),
    ("ber", .number (.finite (1 / 1000))),
    ("laser_bias_ma", .number (.finite 50))]

/-- The sample validated from that document. -/
def validatedSample (linkId channelId : String) : Sample Rat where
  tsUnixMs := 1710000000000
  linkId := linkId
  channelId := channelId
  osnrDb := 20
  ber := 1 / 1000
  laserBiasMa := 50
  edfaPumpMa := kEdfaPumpDefault
  rxPowerDbm := kRxPowerDefault

/--
The parser on the lines of two pairs.  The other functions agree with the real
ones at the numbers these lines lead to.
-/
def collisionLibrary : IngestLibrary Rat where
  parse line :=
    if line = sampleLine "a|b" "c" then
      some (sampleDocument "a|b" "c")
    else if line = sampleLine "a" "b|c" then
      some (sampleDocument "a" "b|c")
    else none
  log10 _ := -3
  sqrt value := value
  castOutOfRange _ := 0

/--
After 59 samples of `a|b`, `c` one sample of `a`, `b|c` completes a window, and
the frame built from it mixes both pairs.
-/
theorem pairs_with_one_key_mix :
    ¬ ∀ emission ∈ ingestEmissions collisionLibrary
        (collidingRun 59 (sampleLine "a|b" "c") (sampleLine "a" "b|c")),
      Unmixed collisionLibrary
        (collidingRun 59 (sampleLine "a|b" "c") (sampleLine "a" "b|c"))
        emission := by
  intro unmixed
  have first :
      acceptedSample? collisionLibrary (sampleLine "a|b" "c") =
        some (validatedSample "a|b" "c") := by
    decide +kernel
  have second :
      acceptedSample? collisionLibrary (sampleLine "a" "b|c") =
        some (validatedSample "a" "b|c") := by
    decide +kernel
  obtain ⟨sameLink, _⟩ :=
    samePair_of_unmixed_run first second (by decide) unmixed
  exact absurd sameLink (by decide)

end Collision

end OpticsSoftfail
