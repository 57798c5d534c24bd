import Mathlib.Data.List.Perm.Basic
import OpticsSoftfail.GenerateCommand

namespace OpticsSoftfail

namespace Corpus

/-!
# Reading the training corpus

`load_corpus` reads the parquet files of the data directory, and its CSV files
only when there are none.  Writer and reader choose between the formats by
different rules: one table after the other there, for the whole directory here.
What the runs leave under the three names decides what the trainer gets.
-/

/-- Where the rows come from, the second result of `load_corpus`. -/
inductive Source where
  | dataDir
  | sampleCsv
  deriving Repr, DecidableEq

variable {Row : Type}

section Model

/-!
Reading a parquet file gives back the table; what reading a CSV file makes of
the table is a parameter.  If the directory is `data/sample`, then `SAMPLE_CSV`,
which is called `sample_links.csv`, is one of its files.
-/

variable
  (readCsv : List Row → List Row)
  (inSampleDir : Bool)

/-- The tables of `sorted(data_dir.glob("*.parquet"))`. -/
def parquetFrames (dir : OutDir Row) : List (List Row) :=
  [Stem.los, .nominal, .softFail].filterMap dir.parquet

/-- The tables of `sorted(data_dir.glob("*.csv"))`. -/
def csvFrames
    (dir : OutDir Row)
    (sampleCsv : Option (List Row)) : List (List Row) :=
  ([Stem.los, .nominal].filterMap dir.csv ++
      (if inSampleDir then sampleCsv.toList else []) ++
      [Stem.softFail].filterMap dir.csv).map readCsv

/-- `frames`. -/
def corpusFrames (disk : Disk Row) : List (List Row) :=
  match disk.outDir with
  | none => []
  | some dir =>
      let frames := parquetFrames dir
      if frames.isEmpty then
        csvFrames readCsv inSampleDir dir disk.sampleCsv
      else frames

/-- `load_corpus`; `none` is `SystemExit`. -/
def loadCorpus (disk : Disk Row) : Option (List Row × Source) :=
  let frames := corpusFrames readCsv inSampleDir disk
  if frames.isEmpty then
    disk.sampleCsv.map fun rows => (readCsv rows, .sampleCsv)
  else
    some (frames.flatten, .dataDir)

end Model

/-! ## What a history of runs leaves -/

section History

variable (table : List LinkSpec → List Row) (sample : List Row)

/-- The rows of the tables of a schedule. -/
def rowsOf (specs : List LinkSpec) (written : List Stem) : List Row :=
  written.flatMap fun stem => table (bucket specs stem)

/-- The parquet files after one more run. -/
def leaveParquet
    (left : Stem → Option (List Row))
    (run : GenerateRun) : Stem → Option (List Row) :=
  match trainingSpecs run.hours with
  | none => left
  | some specs => fun stem =>
      (run.write stem).parquetAfter (table (bucket specs stem)) (left stem)

/-- The parquet files after the runs. -/
def parquetLeft
    (start : Disk Row)
    (runs : List GenerateRun) : Stem → Option (List Row) :=
  runs.foldl (leaveParquet table) (mkdir start.outDir).parquet

/-- `SAMPLE_CSV` after the runs. -/
def sampleLeft
    (start : Disk Row)
    (runs : List GenerateRun) : Option (List Row) :=
  runs.foldl
    (fun left run =>
      if (trainingSpecs run.hours).isNone || run.noSample then left
      else some sample)
    start.sampleCsv

/-- The tables of a run that fall back to CSV. -/
def fellBack (run : GenerateRun) : List Stem :=
  stems.filter fun stem => run.write stem ≠ .parquet

/-- The loaded rows are these, in whatever order. -/
def ReadsRows
    (loaded : Option (List Row × Source))
    (rows : List Row) : Prop :=
  ∃ read, loaded = some (read, .dataDir) ∧ read.Perm rows

/-- What has to hold of the files for the last run to be read back. -/
def ReadsBack
    (readCsv : List Row → List Row)
    (inSampleDir : Bool)
    (left : Stem → Option (List Row))
    (sampleCsv : Option (List Row))
    (specs : List LinkSpec)
    (last : GenerateRun) : Prop :=
  ((∃ stem, left stem ≠ none) ∧
      ((fellBack last).flatMap fun stem => (left stem).getD []).Perm
        (rowsOf table specs (fellBack last))) ∨
    ((∀ stem, left stem = none) ∧
      ((stems.flatMap fun stem => readCsv (table (bucket specs stem))) ++
          if inSampleDir then sampleCsv.toList.flatMap readCsv
          else []).Perm
        (rowsOf table specs stems))

variable {table sample}

theorem parquetLeft_append_singleton
    {last : GenerateRun}
    {specs : List LinkSpec}
    (specified : trainingSpecs last.hours = some specs)
    (start : Disk Row)
    (earlier : List GenerateRun)
    (stem : Stem) :
    parquetLeft table start (earlier ++ [last]) stem =
      (last.write stem).parquetAfter (table (bucket specs stem))
        (parquetLeft table start earlier stem) := by
  rw [parquetLeft, List.foldl_append, List.foldl_cons, List.foldl_nil,
    leaveParquet, specified]
  rfl

theorem generate_of_specified
    {run : GenerateRun}
    {specs : List LinkSpec}
    (specified : trainingSpecs run.hours = some specs)
    (disk : Disk Row) :
    generate table sample disk run = {
      outDir := stems.foldl (writeBucket table specs run) disk.outDir
      sampleCsv := if run.noSample then disk.sampleCsv else some sample } := by
  rw [generate, cmdGenerate, specified]
  rfl

theorem generate_of_not_specified
    {run : GenerateRun}
    (unspecified : trainingSpecs run.hours = none)
    (disk : Disk Row) :
    generate table sample disk run = disk := by
  rw [generate, cmdGenerate, unspecified]
  rfl

theorem parquet_generate (disk : Disk Row) (run : GenerateRun) :
    (mkdir (generate table sample disk run).outDir).parquet =
      leaveParquet table (mkdir disk.outDir).parquet run := by
  cases specified : trainingSpecs run.hours with
  | none =>
      rw [generate_of_not_specified specified, leaveParquet, specified]
  | some specs =>
      obtain ⟨dir, isDir, parquet, _⟩ :=
        @foldl_writeBucket _ table specs (bucket_ne_nil specified) run
          disk.outDir
      rw [generate_of_specified specified, isDir, leaveParquet, specified,
        mkdir_some]
      exact funext parquet

/-- The parquet files are those that the history has left. -/
theorem parquet_foldl_generate
    (start : Disk Row)
    (runs : List GenerateRun) :
    (mkdir (runs.foldl (generate table sample) start).outDir).parquet =
      parquetLeft table start runs := by
  induction runs generalizing start with
  | nil =>
      rfl
  | cons run later inductionHypothesis =>
      rw [List.foldl_cons, inductionHypothesis, parquetLeft, parquetLeft,
        List.foldl_cons, parquet_generate]

/-- So is the sample. -/
theorem sampleCsv_foldl_generate
    (start : Disk Row)
    (runs : List GenerateRun) :
    (runs.foldl (generate table sample) start).sampleCsv =
      sampleLeft sample start runs := by
  induction runs generalizing start with
  | nil =>
      rfl
  | cons run later inductionHypothesis =>
      rw [List.foldl_cons, inductionHypothesis, sampleLeft, sampleLeft,
        List.foldl_cons]
      cases specified : trainingSpecs run.hours with
      | none =>
          rw [generate_of_not_specified specified]
          simp
      | some specs =>
          rw [generate_of_specified specified]
          simp

/-- The directory after the last run. -/
structure Written
    (table : List LinkSpec → List Row)
    (specs : List LinkSpec)
    (last : GenerateRun)
    (dir : OutDir Row) : Prop where
  parquet :
    ∀ stem,
      last.write stem = .parquet →
        dir.parquet stem = some (table (bucket specs stem))
  csv :
    ∀ stem,
      last.write stem ≠ .parquet →
        dir.csv stem = some (table (bucket specs stem))

theorem exists_written
    {last : GenerateRun}
    {specs : List LinkSpec}
    (specified : trainingSpecs last.hours = some specs)
    (start : Disk Row)
    (earlier : List GenerateRun) :
    ∃ dir,
      ((earlier ++ [last]).foldl (generate table sample) start).outDir =
          some dir ∧
        dir.parquet = parquetLeft table start (earlier ++ [last]) ∧
          Written table specs last dir := by
  obtain ⟨dir, isDir, parquet, csv⟩ :=
    @foldl_writeBucket _ table specs (bucket_ne_nil specified) last
      (earlier.foldl (generate table sample) start).outDir
  have afterLast :
      ((earlier ++ [last]).foldl (generate table sample) start).outDir =
        some dir := by
    rw [List.foldl_append, List.foldl_cons, List.foldl_nil,
      generate_of_specified specified]
    exact isDir
  refine ⟨dir, afterLast, ?_, ?_, ?_⟩
  · rw [← @parquet_foldl_generate _ table sample, afterLast, mkdir_some]
  · intro stem asParquet
    rw [parquet, asParquet]
    rfl
  · intro stem fellBack
    rw [csv]
    cases written : last.write stem with
    | parquet =>
        exact absurd written fellBack
    | csv removed =>
        rfl

end History

section Reading

variable
  {table : List LinkSpec → List Row}
  {readCsv : List Row → List Row}
  {inSampleDir : Bool}
  {specs : List LinkSpec}
  {last : GenerateRun}
  {dir : OutDir Row}

theorem flatten_filterMap
    (file? : Stem → Option (List Row))
    (names : List Stem) :
    (names.filterMap file?).flatten =
      names.flatMap fun stem => (file? stem).getD [] := by
  induction names with
  | nil =>
      rfl
  | cons stem later inductionHypothesis =>
      rw [List.flatMap_cons, ← inductionHypothesis]
      cases found : file? stem <;> simp [found]

/-- The tables that were written as parquet, and those that fell back. -/
theorem stems_perm (run : GenerateRun) :
    ((stems.filter fun stem => run.write stem = .parquet) ++
      fellBack run).Perm stems := by
  have parts :=
    List.filter_append_perm (fun stem => run.write stem = .parquet) stems
  simpa [fellBack] using parts

/-- The rows of the parquet files, sorted by the way they were written. -/
theorem flatten_parquetFrames_perm
    (written : Written table specs last dir) :
    (parquetFrames dir).flatten.Perm
      (rowsOf table specs
          (stems.filter fun stem => last.write stem = .parquet) ++
        (fellBack last).flatMap
          fun stem => (dir.parquet stem).getD []) := by
  have sorted : [Stem.los, .nominal, .softFail].Perm stems := by
    decide
  have asWritten :
      (stems.filter fun stem => last.write stem = .parquet).flatMap
          (fun stem => (dir.parquet stem).getD []) =
        rowsOf table specs
          (stems.filter fun stem => last.write stem = .parquet) := by
    rw [rowsOf, List.flatMap_congr]
    intro stem member
    have asParquet := (List.mem_filter.mp member).2
    rw [written.parquet stem (of_decide_eq_true asParquet)]
    rfl
  rw [parquetFrames, flatten_filterMap, ← asWritten, ← List.flatMap_append]
  exact (sorted.trans (stems_perm last).symm).flatMap_right _

/-- The rows of all tables, sorted in the same way. -/
theorem rowsOf_stems_perm :
    (rowsOf table specs stems).Perm
      (rowsOf table specs
          (stems.filter fun stem => last.write stem = .parquet) ++
        rowsOf table specs (fellBack last)) := by
  rw [rowsOf, rowsOf, rowsOf, ← List.flatMap_append]
  exact (stems_perm last).symm.flatMap_right _

/-- With a parquet file there, the tables that fell back decide. -/
theorem flatten_parquetFrames_perm_iff
    (written : Written table specs last dir) :
    (parquetFrames dir).flatten.Perm (rowsOf table specs stems) ↔
      ((fellBack last).flatMap fun stem => (dir.parquet stem).getD []).Perm
        (rowsOf table specs (fellBack last)) := by
  have loaded := flatten_parquetFrames_perm written
  have generated := @rowsOf_stems_perm _ table specs last
  refine Iff.trans ?_
    (List.perm_append_left_iff
      (rowsOf table specs
        (stems.filter fun stem => last.write stem = .parquet)))
  constructor
  · intro same
    exact (loaded.symm.trans same).trans generated
  · intro same
    exact (loaded.trans same).trans generated.symm

theorem parquetFrames_eq_nil_iff :
    parquetFrames dir = [] ↔ ∀ stem, dir.parquet stem = none := by
  rw [parquetFrames, List.filterMap_eq_nil_iff]
  constructor
  · intro absent stem
    apply absent
    cases stem <;> decide
  · intro absent stem _
    exact absent stem

/-- Without a parquet file all tables fell back. -/
theorem Written.csv_of_absent
    (written : Written table specs last dir)
    (absent : ∀ stem, dir.parquet stem = none)
    (stem : Stem) :
    dir.csv stem = some (table (bucket specs stem)) := by
  apply written.csv
  intro asParquet
  have present := written.parquet stem asParquet
  rw [absent] at present
  cases present

/-- Then all of them are read, and the sample if it is beside them. -/
theorem flatten_csvFrames_perm
    (csv : ∀ stem, dir.csv stem = some (table (bucket specs stem)))
    (sampleCsv : Option (List Row)) :
    (csvFrames readCsv inSampleDir dir sampleCsv).flatten.Perm
      ((stems.flatMap fun stem => readCsv (table (bucket specs stem))) ++
        if inSampleDir then sampleCsv.toList.flatMap readCsv else []) := by
  let others : List (List Row) :=
    if inSampleDir then sampleCsv.toList else []
  let one (stem : Stem) : List Row := table (bucket specs stem)
  have asListed :
      [Stem.los, .nominal].filterMap dir.csv ++ others ++
          [Stem.softFail].filterMap dir.csv =
        one .los :: one .nominal :: (others ++ [one .softFail]) := by
    simp [csv, one]
  have lastFirst :
      (others ++ [one .softFail]).Perm (one .softFail :: others) :=
    List.perm_append_singleton _ _
  have tables :
      (one .los :: one .nominal :: (others ++ [one .softFail])).Perm
        (stems.map one ++ others) :=
    ((lastFirst.cons _).cons _).trans
      ((List.Perm.swap _ _ _).trans ((List.Perm.swap _ _ _).cons _))
  have asRows :
      ((stems.map one ++ others).map readCsv).flatten =
        (stems.flatMap fun stem => readCsv (table (bucket specs stem))) ++
          if inSampleDir then sampleCsv.toList.flatMap readCsv
          else [] := by
    rw [List.map_append, List.flatten_append, List.map_map]
    cases inSampleDir <;> rfl
  rw [← asRows, csvFrames, asListed]
  exact (tables.map readCsv).flatten

theorem loadCorpus_of_parquet
    {stem : Stem}
    (present : dir.parquet stem ≠ none)
    (sampleCsv : Option (List Row)) :
    loadCorpus readCsv inSampleDir ⟨some dir, sampleCsv⟩ =
      some ((parquetFrames dir).flatten, .dataDir) := by
  have notEmpty : parquetFrames dir ≠ [] :=
    fun isEmpty => present (parquetFrames_eq_nil_iff.mp isEmpty stem)
  simp [loadCorpus, corpusFrames, notEmpty]

theorem loadCorpus_of_csv
    (absent : ∀ stem, dir.parquet stem = none)
    (csv : ∀ stem, dir.csv stem = some (table (bucket specs stem)))
    (sampleCsv : Option (List Row)) :
    loadCorpus readCsv inSampleDir ⟨some dir, sampleCsv⟩ =
      some ((csvFrames readCsv inSampleDir dir sampleCsv).flatten,
        .dataDir) := by
  have noParquet : parquetFrames dir = [] :=
    parquetFrames_eq_nil_iff.mpr absent
  have notEmpty : csvFrames readCsv inSampleDir dir sampleCsv ≠ [] := by
    simp [csvFrames, csv]
  simp [loadCorpus, corpusFrames, noParquet, notEmpty]

theorem readsRows_some_iff {loaded rows : List Row} :
    ReadsRows (some (loaded, .dataDir)) rows ↔ loaded.Perm rows := by
  simp [ReadsRows]

/-- What `load_corpus` reads after the last run, case by case. -/
theorem readsRows_iff
    (written : Written table specs last dir)
    (sampleCsv : Option (List Row)) :
    ReadsRows (loadCorpus readCsv inSampleDir ⟨some dir, sampleCsv⟩)
        (rowsOf table specs stems) ↔
      ReadsBack table readCsv inSampleDir dir.parquet sampleCsv specs
        last := by
  by_cases present : ∃ stem, dir.parquet stem ≠ none
  · obtain ⟨stem, isPresent⟩ := present
    rw [loadCorpus_of_parquet isPresent, readsRows_some_iff,
      flatten_parquetFrames_perm_iff written]
    constructor
    · intro same
      exact Or.inl ⟨⟨stem, isPresent⟩, same⟩
    · rintro (⟨_, same⟩ | ⟨absent, _⟩)
      · exact same
      · exact absurd (absent stem) isPresent
  · have absent (stem : Stem) : dir.parquet stem = none :=
      not_not.mp (not_exists.mp present stem)
    have csv := written.csv_of_absent absent
    have loaded :=
      @flatten_csvFrames_perm _ table readCsv inSampleDir specs dir csv
        sampleCsv
    rw [loadCorpus_of_csv absent csv, readsRows_some_iff]
    constructor
    · intro same
      exact Or.inr ⟨absent, loaded.symm.trans same⟩
    · rintro (⟨isPresent, _⟩ | ⟨_, same⟩)
      · exact absurd isPresent present
      · exact loaded.trans same

/-- A run without fallback is read back, whatever came before. -/
theorem readsBack_of_all_parquet
    {left : Stem → Option (List Row)}
    {stem : Stem}
    (present : left stem ≠ none)
    (asParquet : ∀ stem, last.write stem = .parquet)
    (sampleCsv : Option (List Row)) :
    ReadsBack table readCsv inSampleDir left sampleCsv specs last := by
  have noneFellBack : fellBack last = [] := by
    simp [fellBack, asParquet]
  refine Or.inl ⟨⟨stem, present⟩, ?_⟩
  rw [noneFellBack]
  exact List.Perm.nil

/-- So is a run that only writes CSV, if there never was a parquet file. -/
theorem readsBack_of_no_parquet
    {left : Stem → Option (List Row)}
    (absent : ∀ stem, left stem = none)
    (faithful :
      ∀ stem,
        readCsv (table (bucket specs stem)) = table (bucket specs stem))
    (sampleCsv : Option (List Row)) :
    ReadsBack table readCsv false left sampleCsv specs last := by
  refine Or.inr ⟨absent, ?_⟩
  rw [rowsOf, if_neg Bool.false_ne_true, List.append_nil,
    List.flatMap_congr fun stem _ => faithful stem]

/--
The trainer gets the rows of the last run exactly when they can be read back
from what the history has left: where a parquet file is there, the files at
the names of the tables that fell back hold the same rows as these tables.
Only files of `generate` are in the directory.
-/
theorem load_reads_last_run_iff
    (table : List LinkSpec → List Row)
    (sample : List Row)
    (readCsv : List Row → List Row)
    (inSampleDir : Bool)
    (start : Disk Row)
    (earlier : List GenerateRun)
    {last : GenerateRun}
    {specs : List LinkSpec}
    (specified : trainingSpecs last.hours = some specs) :
    ReadsRows
        (loadCorpus readCsv inSampleDir
          ((earlier ++ [last]).foldl (generate table sample) start))
        (rowsOf table specs stems) ↔
      ReadsBack table readCsv inSampleDir
        (parquetLeft table start (earlier ++ [last]))
        (sampleLeft sample start (earlier ++ [last])) specs last := by
  obtain ⟨dir, isDir, parquet, written⟩ :=
    @exists_written _ table sample last specs specified start earlier
  have disk :
      (earlier ++ [last]).foldl (generate table sample) start =
        ⟨some dir, sampleLeft sample start (earlier ++ [last])⟩ := by
    rw [← isDir, ← @sampleCsv_foldl_generate _ table]
  rw [disk, ← parquet]
  exact readsRows_iff written _

end Reading

section Runs

/-- A table that names its links. -/
def linkTable (specs : List LinkSpec) : List String :=
  specs.map LinkSpec.linkId

/-- Nothing has been written. -/
def fresh : Disk String where
  outDir := none
  sampleCsv := none

/-- A run in which every table is written as parquet. -/
def parquetRun : GenerateRun where
  hours := 4
  noSample := true
  write _ := .parquet

/-- A run in which `nominal.parquet` cannot be written. -/
def mixedRun : GenerateRun where
  hours := 4
  noSample := true
  write stem := if stem = .nominal then .csv false else .parquet

theorem exists_trainingSpecs : ∃ specs, trainingSpecs 4 = some specs :=
  Option.isSome_iff_exists.mp (by decide +kernel)

/-- After a mixed run, a run without fallback is read back. -/
theorem load_reads_last_run_parquet :
    ∃ specs,
      trainingSpecs parquetRun.hours = some specs ∧
        ReadsRows
          (loadCorpus id false
            ([mixedRun, parquetRun].foldl (generate linkTable []) fresh))
          (rowsOf linkTable specs stems) := by
  obtain ⟨specs, specified⟩ :
      ∃ specs, trainingSpecs parquetRun.hours = some specs :=
    exists_trainingSpecs
  have present :
      parquetLeft linkTable fresh ([mixedRun] ++ [parquetRun]) .nominal ≠
        none := by
    rw [parquetLeft_append_singleton specified]
    exact Option.some_ne_none _
  refine ⟨specs, specified, ?_⟩
  exact (load_reads_last_run_iff linkTable [] id false fresh [mixedRun]
    specified).mpr (readsBack_of_all_parquet present (fun _ => rfl) _)

/-- The table that fell back is not read. -/
theorem mixed_run_loses_table :
    ∃ specs,
      trainingSpecs mixedRun.hours = some specs ∧
        ¬ ReadsRows
          (loadCorpus id false
            ([mixedRun].foldl (generate linkTable []) fresh))
          (rowsOf linkTable specs stems) := by
  obtain ⟨specs, specified⟩ :
      ∃ specs, trainingSpecs mixedRun.hours = some specs :=
    exists_trainingSpecs
  refine ⟨specs, specified, ?_⟩
  obtain ⟨dir, isDir, parquet, written⟩ :
      ∃ dir,
        ([mixedRun].foldl (generate linkTable []) fresh).outDir =
            some dir ∧
          dir.parquet = parquetLeft linkTable fresh ([] ++ [mixedRun]) ∧
            Written linkTable specs mixedRun dir :=
    exists_written specified fresh []
  have disk :
      [mixedRun].foldl (generate linkTable []) fresh =
        ⟨some dir,
          ([mixedRun].foldl (generate linkTable []) fresh).sampleCsv⟩ := by
    rw [← isDir]
  rw [disk, readsRows_iff written, parquet]
  rintro (⟨_, same⟩ | ⟨absent, _⟩)
  · have onlyNominal : fellBack mixedRun = [.nominal] := by
      decide
    have nothing :
        parquetLeft linkTable fresh ([] ++ [mixedRun]) .nominal = none := by
      rw [parquetLeft_append_singleton specified]
      rfl
    rw [rowsOf, onlyNominal, List.flatMap_singleton,
      List.flatMap_singleton, nothing, linkTable] at same
    have noLinks := List.map_eq_nil_iff.mp same.nil_eq.symm
    exact bucket_ne_nil specified .nominal noLinks
  · have softFail := absent .softFail
    rw [parquetLeft_append_singleton specified] at softFail
    exact absurd softFail (Option.some_ne_none _)

end Runs

end Corpus

end OpticsSoftfail
