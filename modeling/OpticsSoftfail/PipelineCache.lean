import Mathlib.Algebra.Field.Rat
import OpticsSoftfail.InferTasks
import OpticsSoftfail.SlotCache

namespace OpticsSoftfail

namespace PipelineCache

open InferTasks SlotCache

/-!
# The pipeline cache of infer

`get_pipeline` keeps the scoring pipeline it has loaded in `_PIPELINE`, one slot
for the whole process.  Its argument `models_dir` is read only when the slot is
empty or a reload is asked for.  The frame server scores with the directory of
the runner, the API with the directory of its app, and both use the slot.  The
artifacts on disk do not change.
-/

variable {Dir Failure Forest Encoder Head Value Score : Type}

/-- The frozen artifacts in memory. -/
structure ScoringPipeline (Forest Encoder Head : Type) where
  iforest : Forest
  autoencoder : Encoder
  horizon : Head
  deriving Repr, DecidableEq

/-- The numbers that the pipeline computes for a frame. -/
structure PipelineScores (Score : Type) where
  sIf : Score
  sAe : Score
  pFail10m : Score
  deriving Repr, DecidableEq

/-- What the cache takes from the disk, the models and the interpreter. -/
structure Backend
    (Dir Failure Forest Encoder Head Value Score : Type) where
  /-- `IsolationForestScorer.load`. -/
  iforest : Dir → Except Failure Forest
  /-- `AutoencoderScorer.load`. -/
  autoencoder : Dir → Except Failure Encoder
  /-- `HorizonHead.load`. -/
  horizon : Dir → Except Failure Head
  /-- `ScoringPipeline.score_frame`. -/
  score :
    ScoringPipeline Forest Encoder Head → Json Value →
      Except Failure (PipelineScores Score)
  /-- `int`. -/
  int : Json Value → Except Failure Int
  decoder : Decoder Value

section Model

variable (backend : Backend Dir Failure Forest Encoder Head Value Score)

/-- `ScoringPipeline.load`. -/
def ScoringPipeline.load
    (modelsDir : Dir) :
    Except Failure (ScoringPipeline Forest Encoder Head) := do
  let iforest ← backend.iforest modelsDir
  let autoencoder ← backend.autoencoder modelsDir
  let horizon ← backend.horizon modelsDir
  return ⟨iforest, autoencoder, horizon⟩

/-- `get_pipeline`, with `_PIPELINE` before and after. -/
def getPipeline
    (slot : Option (ScoringPipeline Forest Encoder Head))
    (modelsDir : Dir)
    (reload : Bool) :
    Option (ScoringPipeline Forest Encoder Head) ×
      Except Failure (ScoringPipeline Forest Encoder Head) :=
  match slot, reload with
  | some pipeline, false => (slot, .ok pipeline)
  | _, _ =>
      match ScoringPipeline.load backend modelsDir with
      | .ok pipeline => (some pipeline, .ok pipeline)
      | .error failure => (slot, .error failure)

/-- The part of `score_frame` that follows `get_pipeline`. -/
def scoreWith
    [Zero Value]
    (frame : Json Value)
    (pipeline : ScoringPipeline Forest Encoder Head) :
    Except Failure (Observation Score) := do
  let scores ← backend.score pipeline frame
  let tsUnixMs ←
    backend.int ((frame.find? "ts_unix_ms").getD (.number (.finite 0)))
  return {
    tsUnixMs := tsUnixMs
    linkId := (backend.decoder.key frame).linkId
    channelId := (backend.decoder.key frame).channelId
    sIf := scores.sIf
    sAe := scores.sAe
    pFail10m := scores.pFail10m }

/-- `score_frame`, with `_PIPELINE` before and after. -/
def scoreFrame
    [Zero Value]
    (slot : Option (ScoringPipeline Forest Encoder Head))
    (frame : Json Value)
    (modelsDir : Dir) :
    Option (ScoringPipeline Forest Encoder Head) ×
      Except Failure (Observation Score) :=
  let got := getPipeline backend slot modelsDir false
  (got.1, got.2.bind (scoreWith backend frame))

/-- A call of one of the two functions. -/
inductive Call (Dir Value : Type) where
  | getPipeline (modelsDir : Dir) (reload : Bool)
  | scoreFrame (frame : Json Value) (modelsDir : Dir)

/-- What the caller gets. -/
inductive Answer (Forest Encoder Head Score : Type) where
  | pipeline (pipeline : ScoringPipeline Forest Encoder Head)
  | observation (observation : Observation Score)

/-- The pipeline a call returns or scores with, and what the caller gets. -/
structure Response (Failure Forest Encoder Head Score : Type) where
  used : Except Failure (ScoringPipeline Forest Encoder Head)
  answer : Except Failure (Answer Forest Encoder Head Score)

namespace Call

/-- What a call asks of the slot; `score_frame` does not reload. -/
def request : Call Dir Value → Request Dir
  | .getPipeline modelsDir reload => ⟨modelsDir, reload⟩
  | .scoreFrame _ modelsDir => ⟨modelsDir, false⟩

variable [Zero Value]

/-- `_PIPELINE` after a call, and the response. -/
def run
    (slot : Option (ScoringPipeline Forest Encoder Head)) :
    Call Dir Value →
      Option (ScoringPipeline Forest Encoder Head) ×
        Response Failure Forest Encoder Head Score
  | .getPipeline modelsDir reload =>
      let got := PipelineCache.getPipeline backend slot modelsDir reload
      (got.1, ⟨got.2, got.2.map Answer.pipeline⟩)
  | .scoreFrame frame modelsDir =>
      let scored := PipelineCache.scoreFrame backend slot frame modelsDir
      (scored.1,
        ⟨(PipelineCache.getPipeline backend slot modelsDir false).2,
          scored.2.map Answer.observation⟩)

/-- The answer of a call that uses the pipeline. -/
def answerWith
    (used : Except Failure (ScoringPipeline Forest Encoder Head)) :
    Call Dir Value → Except Failure (Answer Forest Encoder Head Score)
  | .getPipeline _ _ => used.map Answer.pipeline
  | .scoreFrame frame _ =>
      (used.bind (scoreWith backend frame)).map Answer.observation

/-- The response without a cache. -/
def direct
    (call : Call Dir Value) :
    Response Failure Forest Encoder Head Score :=
  let used := ScoringPipeline.load backend call.request.key
  ⟨used, call.answerWith backend used⟩

end Call

/-- The responses to the calls of one process, one after the other. -/
def responses
    [Zero Value] :
    Option (ScoringPipeline Forest Encoder Head) →
      List (Call Dir Value) →
        List (Response Failure Forest Encoder Head Score)
  | _, [] => []
  | slot, call :: later =>
      (call.run backend slot).2 ::
        responses (call.run backend slot).1 later

end Model

section Refinement

variable
  {backend : Backend Dir Failure Forest Encoder Head Value Score}

/-- `get_pipeline` serves its slot. -/
theorem getPipeline_eq_serve
    (slot : Option (ScoringPipeline Forest Encoder Head))
    (modelsDir : Dir)
    (reload : Bool) :
    getPipeline backend slot modelsDir reload =
      serve (ScoringPipeline.load backend) slot ⟨modelsDir, reload⟩ := by
  cases loaded : ScoringPipeline.load backend modelsDir <;>
    cases slot <;> cases reload <;>
      simp [getPipeline, serve, keep, loaded]

variable [Zero Value]

/-- So does every call. -/
theorem run_eq_serve
    (slot : Option (ScoringPipeline Forest Encoder Head))
    (call : Call Dir Value) :
    call.run backend slot =
      ((serve (ScoringPipeline.load backend) slot call.request).1,
        ⟨(serve (ScoringPipeline.load backend) slot call.request).2,
          call.answerWith backend
            (serve (ScoringPipeline.load backend) slot
              call.request).2⟩) := by
  cases call with
  | getPipeline modelsDir reload =>
      simp only [Call.run, getPipeline_eq_serve]
      rfl
  | scoreFrame frame modelsDir =>
      simp only [Call.run, scoreFrame, getPipeline_eq_serve]
      rfl

/-- The pipelines used are the answers of the slot. -/
theorem map_used_responses
    (slot : Option (ScoringPipeline Forest Encoder Head))
    (calls : List (Call Dir Value)) :
    (responses backend slot calls).map Response.used =
      answers (ScoringPipeline.load backend) slot
        (calls.map Call.request) := by
  induction calls generalizing slot with
  | nil =>
      rfl
  | cons call later inductionHypothesis =>
      rw [responses, List.map_cons, List.map_cons, answers, run_eq_serve,
        inductionHypothesis]

/-- What the caller gets depends on the pipeline that is used. -/
theorem responses_eq
    (slot : Option (ScoringPipeline Forest Encoder Head))
    (calls : List (Call Dir Value)) :
    responses backend slot calls =
      List.zipWith (fun call used => ⟨used, call.answerWith backend used⟩)
        calls ((responses backend slot calls).map Response.used) := by
  induction calls generalizing slot with
  | nil =>
      rfl
  | cons call later inductionHypothesis =>
      rw [responses, List.map_cons, List.zipWith_cons_cons,
        ← inductionHypothesis, run_eq_serve]

theorem responses_eq_direct_iff
    {slot : Option (ScoringPipeline Forest Encoder Head)}
    {calls : List (Call Dir Value)} :
    responses backend slot calls = calls.map (Call.direct backend) ↔
      answers (ScoringPipeline.load backend) slot
          (calls.map Call.request) =
        SlotCache.direct (ScoringPipeline.load backend)
          (calls.map Call.request) := by
  have directUsed :
      (calls.map (Call.direct backend)).map Response.used =
        SlotCache.direct (ScoringPipeline.load backend)
          (calls.map Call.request) := by
    rw [SlotCache.direct, List.map_map, List.map_map]
    rfl
  constructor
  · intro same
    rw [← map_used_responses, same, directUsed]
  · intro same
    rw [responses_eq, map_used_responses, same, ← directUsed,
      List.map_map, List.zipWith_map_right, List.zipWith_self]
    rfl

/--
The cache goes unnoticed exactly when every call without reload names a
directory with the pipeline that was loaded last: the one of the last
directory before it that can be loaded, if there is one.
-/
theorem pipeline_cache_transparent_iff
    (backend : Backend Dir Failure Forest Encoder Head Value Score)
    (calls : List (Call Dir Value)) :
    responses backend none calls = calls.map (Call.direct backend) ↔
      ∀ earlier call later,
        calls = earlier ++ call :: later →
          call.request.reload = false →
            ∀ pipeline,
              lastLoaded (ScoringPipeline.load backend) none
                  (earlier.map Call.request) = some pipeline →
                ScoringPipeline.load backend call.request.key =
                  .ok pipeline := by
  rw [responses_eq_direct_iff, answers_eq_direct_iff]
  constructor
  · rintro renews earlier call later rfl
    exact renews _ _ (later.map Call.request) (by simp)
  · intro renews earlier request later shape
    obtain ⟨earlierCalls, others, isCalls, rfl, isOthers⟩ :=
      List.map_eq_append_iff.mp shape
    obtain ⟨call, laterCalls, isOthersCalls, rfl, rfl⟩ :=
      List.map_eq_cons_iff.mp isOthers
    exact renews earlierCalls call laterCalls
      (isCalls.trans (by rw [isOthersCalls]))

end Refinement

section Service

/-! ## The two front ends in one process -/

/-- The runner's `models_dir` and that of the app. -/
structure Service (Dir : Type) where
  runnerDir : Dir
  /-- `create_app()` takes `MODELS_DIR`. -/
  appDir : Dir

/-- What either front end has to score. -/
inductive Job (Value : Type) where
  /-- A frame of the TCP server. -/
  | line (frame : Json Value)
  /-- A frame of `POST /v1/score`, `frame.model_dump()`. -/
  | post (frame : Json Value)

/-- The call of `handle_line` or of the endpoint. -/
def Service.call (service : Service Dir) : Job Value → Call Dir Value
  | .line frame => .scoreFrame frame service.runnerDir
  | .post frame => .scoreFrame frame service.appDir

/-- `InferRunner.run` loads the pipeline before it serves. -/
def Service.calls
    (service : Service Dir)
    (jobs : List (Job Value)) : List (Call Dir Value) :=
  .getPipeline service.runnerDir false :: jobs.map service.call

theorem Service.not_reload
    (service : Service Dir)
    (jobs : List (Job Value)) :
    ∀ request ∈ (jobs.map service.call).map Call.request,
      request.reload = false := by
  simp only [List.map_map, List.mem_map]
  rintro request ⟨job, _, rfl⟩
  cases job <;> rfl

variable
  [Zero Value]
  {backend : Backend Dir Failure Forest Encoder Head Value Score}

/-- The API scores with the models of its own directory only by luck. -/
theorem service_transparent_iff
    {service : Service Dir}
    {pipeline : ScoringPipeline Forest Encoder Head}
    (loaded :
      ScoringPipeline.load backend service.runnerDir = .ok pipeline)
    (jobs : List (Job Value)) :
    responses backend none (service.calls jobs) =
        (service.calls jobs).map (Call.direct backend) ↔
      ∀ frame,
        Job.post frame ∈ jobs →
          ScoringPipeline.load backend service.appDir = .ok pipeline := by
  have first :
      serve (ScoringPipeline.load backend) none
          ⟨service.runnerDir, false⟩ =
        (some pipeline, .ok pipeline) := by
    simp [serve, keep, loaded]
  have request :
      (service.calls jobs).map Call.request =
        ⟨service.runnerDir, false⟩ ::
          (jobs.map service.call).map Call.request :=
    rfl
  rw [responses_eq_direct_iff, request, answers, first,
    answers_of_forall_not_reload (service.not_reload jobs),
    SlotCache.direct, List.map_cons, loaded, List.cons.injEq,
    List.map_map, List.map_map, List.map_map, List.map_map,
    List.map_inj_left]
  constructor
  · rintro ⟨_, same⟩ frame member
    exact (same (.post frame) member).symm
  · intro agrees
    refine ⟨rfl, fun job member => ?_⟩
    cases job with
    | line frame =>
        exact loaded.symm
    | post frame =>
        exact (agrees frame member).symm

end Service

section TwoDirectories

/-- Each directory has a forest of its own. -/
def marked : Backend String Unit String Unit Unit Rat String where
  iforest modelsDir := .ok modelsDir
  autoencoder _ := .ok ()
  horizon _ := .ok ()
  score pipeline _ := .ok ⟨pipeline.iforest, "", ""⟩
  int _ := .ok 0
  decoder := ⟨fun _ => .decodeError, fun _ => ""⟩

/-- Two directories, one after the other. -/
def twoDirectories : List (Call String Rat) :=
  [.getPipeline "models" false, .getPipeline "candidate" false]

/-- The second call gets the pipeline of the first directory. -/
theorem second_directory_is_ignored :
    (responses marked none twoDirectories).map Response.used =
        [.ok ⟨"models", (), ()⟩, .ok ⟨"models", (), ()⟩] ∧
      responses marked none twoDirectories ≠
        twoDirectories.map (Call.direct marked) := by
  have used :
      (responses marked none twoDirectories).map Response.used =
        [.ok ⟨"models", (), ()⟩, .ok ⟨"models", (), ()⟩] :=
    rfl
  refine ⟨used, fun same => ?_⟩
  have directUsed :
      (twoDirectories.map (Call.direct marked)).map Response.used =
        [.ok ⟨"models", (), ()⟩, .ok ⟨"candidate", (), ()⟩] :=
    rfl
  rw [← same, used] at directUsed
  simp at directUsed

end TwoDirectories

end PipelineCache

end OpticsSoftfail
