import Mathlib.Data.List.Range
import Mathlib.Data.Rat.Floor
import Mathlib.Logic.Function.Basic
import OpticsSoftfail.Binary64

namespace OpticsSoftfail

namespace Corpus

/-!
# Writing the training corpus

`cmd_generate` sorts the link specifications of the schedule into three tables
and writes each of them as a parquet file, or as a CSV file if that fails.  A
file that an earlier run has left at another name stays where it is.  What the
generator computes for a group of specifications is a parameter.
-/

/-- `LABELS`. -/
inductive Label where
  | nominal
  | edfaAging
  | fiberPinch
  | dirtyConnector
  | laserDrift
  | los
  deriving Repr, DecidableEq

/-- `CLASS_SEVERITY`. -/
def CLASS_SEVERITY : Label → Rat
  | .edfaAging => 150
  | .fiberPinch => 15 / 2
  | .dirtyConnector => 19 / 2
  | .laserDrift => 200
  | .los => 0
  | .nominal => 0

/-- `NominalConstants`. -/
structure NominalConstants where
  osnr0Db : Rat := 37 / 2
  ber0 : Rat := 1 / 10 ^ 6
  laserBias0Ma : Rat := 40
  edfaPump0Ma : Rat := 180
  rx0Dbm : Rat := -12
  osnrSigmaDb : Rat := 1 / 20
  biasSigmaMa : Rat := 3 / 20
  pumpSigmaMa : Rat := 2 / 5
  rxSigmaDb : Rat := 2 / 25
  deriving Repr, DecidableEq

/-- `LinkSpec`, after `__post_init__`. -/
structure LinkSpec where
  linkId : String
  label : Label
  channelId : String
  durationS : Int
  onsetS : Rat
  tauS : Rat
  severity : Rat
  seed : Nat
  constants : NominalConstants
  durationPositive : 0 < durationS
  tauPositive : 0 < tauS
  deriving Repr, DecidableEq

/-- The constructor of `LinkSpec`; `none` is its `ValueError`. -/
def LinkSpec.new?
    (linkId : String)
    (label : Label)
    (durationS : Int)
    (seed : Nat)
    (onsetS : Rat := 0)
    (tauS : Rat := 60)
    (severity : Rat := 0)
    (constants : NominalConstants := {}) : Option LinkSpec :=
  if positive : 0 < durationS ∧ 0 < tauS then
    some {
      linkId, label, durationS, onsetS, tauS, severity, seed, constants
      channelId := "C1"
      durationPositive := positive.1
      tauPositive := positive.2 }
  else
    none

/-- `round`, which takes a half to the even neighbour. -/
def roundHalfEven (value : Rat) : Int :=
  roundEven value

/-- `prefixes`. -/
def prefixes : List (Label × String) :=
  [(.edfaAging, "AGE"), (.fiberPinch, "PIN"),
    (.dirtyConnector, "DRT"), (.laserDrift, "DRF")]

/-- `taus`. -/
def taus : List Rat :=
  [1300, 1600, 1900, 2200]

/-- `nominal_s`; the product is one of doubles. -/
def nominalS (hours : Rat) : Int :=
  roundHalfEven (Binary64.mul hours 3600)

/-- The hours are a little below 119.5 s, their product with 3600 is not. -/
example : nominalS (1195955901046165 / 36028797018963968) = 120 := by
  decide +kernel

/-- The links without impairment. -/
def nominalSpecs (hours : Rat) : Option (List LinkSpec) :=
  (List.range' 1 8).mapM fun i =>
    LinkSpec.new? s!"NOM{i}" .nominal (nominalS hours) (1000 + i)

/-- The links of one class that fails softly. -/
def softSpecs (clsIdx : Nat) (label : Label) (name : String) :
    Option (List LinkSpec) :=
  (taus.zipIdx 1).mapM fun entry =>
    LinkSpec.new? s!"{name}{entry.2}" label (2 * 3600)
      (2000 + 100 * clsIdx + entry.2) 1800 entry.1
      (CLASS_SEVERITY label)

/-- The links that lose the signal. -/
def losSpecs : Option (List LinkSpec) :=
  (List.range' 1 2).mapM fun j =>
    LinkSpec.new? s!"LOS{j}" .los (2 * 3600) (3000 + j) 3600 1

/-- `training_specs`. -/
def trainingSpecs (hours : Rat) : Option (List LinkSpec) := do
  let nominal ← nominalSpecs hours
  let soft ← prefixes.zipIdx.mapM fun entry =>
    softSpecs entry.2 entry.1.1 entry.1.2
  let los ← losSpecs
  return nominal ++ soft.flatten ++ los

/-- The stems of the three files, in the order of `buckets`. -/
inductive Stem where
  | nominal
  | softFail
  | los
  deriving Repr, DecidableEq

/-- The keys of `buckets`. -/
def stems : List Stem :=
  [.nominal, .softFail, .los]

/-- The bucket that a specification is put in. -/
def LinkSpec.stem (spec : LinkSpec) : Stem :=
  match spec.label with
  | .nominal => .nominal
  | .los => .los
  | _ => .softFail

/-- `buckets[stem]`. -/
def bucket (specs : List LinkSpec) (stem : Stem) : List LinkSpec :=
  specs.filter fun spec => spec.stem = stem

/-- How `to_parquet` ends. -/
inductive WriteResult where
  | parquet
  /-- It raises, and an old file of the name is left or removed. -/
  | csv (removed : Bool)
  deriving Repr, DecidableEq

/--
The tables of the output directory, as parquet and as CSV files.  Nothing else
is in it: `generate` writes no other names.
-/
structure OutDir (Row : Type) where
  parquet : Stem → Option (List Row)
  csv : Stem → Option (List Row)

/-- What the commands read and write. -/
structure Disk (Row : Type) where
  /-- `none` if the directory does not exist. -/
  outDir : Option (OutDir Row)
  /-- `SAMPLE_CSV`. -/
  sampleCsv : Option (List Row)

/-- One `generate` command, and how its writes end. -/
structure GenerateRun where
  /-- `--hours`, a double. -/
  hours : Rat
  noSample : Bool
  write : Stem → WriteResult

variable {Row : Type}

/-- The directory after `mkdir(parents=True, exist_ok=True)`. -/
def mkdir (outDir : Option (OutDir Row)) : OutDir Row :=
  outDir.getD ⟨fun _ => none, fun _ => none⟩

/-- `_write_table`. -/
def writeTable
    (rows : List Row)
    (outDir : Option (OutDir Row))
    (stem : Stem)
    (result : WriteResult) : OutDir Row :=
  let made := mkdir outDir
  match result with
  | .parquet =>
      { made with parquet := Function.update made.parquet stem (some rows) }
  | .csv removed =>
      { parquet :=
          if removed then Function.update made.parquet stem none
          else made.parquet
        csv := Function.update made.csv stem (some rows) }

section Command

variable
  (table : List LinkSpec → List Row)
  (sample : List Row)

/-- One iteration of the loop over `buckets`. -/
def writeBucket
    (specs : List LinkSpec)
    (run : GenerateRun)
    (outDir : Option (OutDir Row))
    (stem : Stem) : Option (OutDir Row) :=
  if (bucket specs stem).isEmpty then outDir
  else
    some (writeTable (table (bucket specs stem)) outDir stem
      (run.write stem))

/-- `cmd_generate`; `none` is the `ValueError` of the schedule. -/
def cmdGenerate (disk : Disk Row) (run : GenerateRun) :
    Option (Disk Row) := do
  let specs ← trainingSpecs run.hours
  return {
    outDir := stems.foldl (writeBucket table specs run) disk.outDir
    sampleCsv := if run.noSample then disk.sampleCsv else some sample }

/-- A run that raises leaves everything as it is. -/
def generate (disk : Disk Row) (run : GenerateRun) : Disk Row :=
  (cmdGenerate table sample disk run).getD disk

end Command

section Schedule

/-! ## Every schedule fills the three buckets -/

theorem exists_of_mapM_eq_some
    {Item Image : Type}
    {image? : Item → Option Image}
    {items : List Item}
    {images : List Image}
    (mapped : items.mapM image? = some images)
    {item : Item}
    (member : item ∈ items) :
    ∃ image ∈ images, image? item = some image := by
  induction items generalizing images with
  | nil =>
      cases member
  | cons first rest inductionHypothesis =>
      rw [List.mapM_cons] at mapped
      obtain ⟨image, isImage, mappedRest⟩ :=
        Option.bind_eq_some_iff.mp mapped
      obtain ⟨others, areImages, isCons⟩ :=
        Option.bind_eq_some_iff.mp mappedRest
      cases isCons
      rcases List.mem_cons.mp member with rfl | inRest
      · exact ⟨image, List.mem_cons_self, isImage⟩
      · obtain ⟨other, isOther, found⟩ :=
          inductionHypothesis areImages inRest
        exact ⟨other, List.mem_cons_of_mem _ isOther, found⟩

theorem LinkSpec.label_of_new?
    {linkId : String}
    {label : Label}
    {durationS : Int}
    {seed : Nat}
    {onsetS tauS severity : Rat}
    {constants : NominalConstants}
    {spec : LinkSpec}
    (made :
      LinkSpec.new? linkId label durationS seed onsetS tauS severity
          constants =
        some spec) :
    spec.label = label := by
  rw [new?] at made
  split at made
  · cases made
    rfl
  · cases made

/-- No bucket of a schedule is empty. -/
theorem bucket_ne_nil
    {hours : Rat}
    {specs : List LinkSpec}
    (specified : trainingSpecs hours = some specs)
    (stem : Stem) :
    bucket specs stem ≠ [] := by
  obtain ⟨nominal, isNominal, specified⟩ :=
    Option.bind_eq_some_iff.mp specified
  obtain ⟨soft, isSoft, specified⟩ :=
    Option.bind_eq_some_iff.mp specified
  obtain ⟨los, isLos, specified⟩ :=
    Option.bind_eq_some_iff.mp specified
  cases specified
  suffices found :
      ∃ spec ∈ nominal ++ soft.flatten ++ los, spec.stem = stem by
    obtain ⟨spec, member, isStem⟩ := found
    have inBucket :
        spec ∈ bucket (nominal ++ soft.flatten ++ los) stem :=
      List.mem_filter.mpr ⟨member, decide_eq_true isStem⟩
    exact List.ne_nil_of_mem inBucket
  cases stem with
  | nominal =>
      have first : 1 ∈ List.range' 1 8 := by
        decide
      obtain ⟨spec, member, made⟩ := exists_of_mapM_eq_some isNominal first
      refine ⟨spec, by simp [member], ?_⟩
      rw [LinkSpec.stem, LinkSpec.label_of_new? made]
  | softFail =>
      have firstClass : ((Label.edfaAging, "AGE"), 0) ∈ prefixes.zipIdx := by
        decide
      obtain ⟨specs, inSoft, isClass⟩ :=
        exists_of_mapM_eq_some isSoft firstClass
      have firstTau : ((1300 : Rat), 1) ∈ taus.zipIdx 1 := by
        decide
      obtain ⟨spec, member, made⟩ := exists_of_mapM_eq_some isClass firstTau
      have inFlatten : spec ∈ soft.flatten :=
        List.mem_flatten.mpr ⟨specs, inSoft, member⟩
      refine ⟨spec, by simp [inFlatten], ?_⟩
      rw [LinkSpec.stem, LinkSpec.label_of_new? made]
  | los =>
      have first : 1 ∈ List.range' 1 2 := by
        decide
      obtain ⟨spec, member, made⟩ := exists_of_mapM_eq_some isLos first
      refine ⟨spec, by simp [member], ?_⟩
      rw [LinkSpec.stem, LinkSpec.label_of_new? made]

end Schedule

section Files

/-! ## What a run leaves in the directory -/

/-- The parquet file of a table after the write. -/
def WriteResult.parquetAfter
    (rows : List Row)
    (before : Option (List Row)) :
    WriteResult → Option (List Row)
  | .parquet => some rows
  | .csv removed => if removed then none else before

/-- The CSV file of a table after the write. -/
def WriteResult.csvAfter
    (rows : List Row)
    (before : Option (List Row)) :
    WriteResult → Option (List Row)
  | .parquet => before
  | .csv _ => some rows

@[simp] theorem mkdir_some (dir : OutDir Row) : mkdir (some dir) = dir :=
  rfl

@[simp] theorem parquet_writeTable
    (rows : List Row)
    (outDir : Option (OutDir Row))
    (stem other : Stem)
    (result : WriteResult) :
    (writeTable rows outDir stem result).parquet other =
      if other = stem then
        result.parquetAfter rows ((mkdir outDir).parquet stem)
      else (mkdir outDir).parquet other := by
  by_cases same : other = stem
  · subst same
    cases result with
    | parquet =>
        simp [writeTable, WriteResult.parquetAfter]
    | csv removed =>
        cases removed <;> simp [writeTable, WriteResult.parquetAfter]
  · cases result with
    | parquet =>
        simp [writeTable, same]
    | csv removed =>
        cases removed <;> simp [writeTable, same]

@[simp] theorem csv_writeTable
    (rows : List Row)
    (outDir : Option (OutDir Row))
    (stem other : Stem)
    (result : WriteResult) :
    (writeTable rows outDir stem result).csv other =
      if other = stem then
        result.csvAfter rows ((mkdir outDir).csv stem)
      else (mkdir outDir).csv other := by
  by_cases same : other = stem
  · subst same
    cases result <;> simp [writeTable, WriteResult.csvAfter]
  · cases result <;> simp [writeTable, same]

variable {table : List LinkSpec → List Row} {sample : List Row}

/-- A run of the loop settles both files of every table. -/
theorem foldl_writeBucket
    {specs : List LinkSpec}
    (filled : ∀ stem, bucket specs stem ≠ [])
    (run : GenerateRun)
    (outDir : Option (OutDir Row)) :
    ∃ dir,
      stems.foldl (writeBucket table specs run) outDir = some dir ∧
        (∀ stem,
          dir.parquet stem =
            (run.write stem).parquetAfter (table (bucket specs stem))
              ((mkdir outDir).parquet stem)) ∧
          ∀ stem,
            dir.csv stem =
              (run.write stem).csvAfter (table (bucket specs stem))
                ((mkdir outDir).csv stem) := by
  simp only [stems, List.foldl_cons, List.foldl_nil, writeBucket,
    List.isEmpty_iff, filled, if_false]
  refine ⟨_, rfl, fun stem => ?_, fun stem => ?_⟩ <;>
    cases stem <;> simp

end Files

end Corpus

end OpticsSoftfail
