import OpticsSoftfail.Binary64
import OpticsSoftfail.PathManagerState
import OpticsSoftfail.PathManagerCapacity
import OpticsSoftfail.PathManagerDelivery
import OpticsSoftfail.HealerHistory
import OpticsSoftfail.HealerConcurrency
import OpticsSoftfail.HealerPce
import OpticsSoftfail.IngestSample
import OpticsSoftfail.Statistics
import OpticsSoftfail.FeatureFrame
import OpticsSoftfail.IngestWindow
import OpticsSoftfail.IngestHandler
import OpticsSoftfail.IngestSeparation
import OpticsSoftfail.IngestReference
import OpticsSoftfail.LineFraming
import OpticsSoftfail.JsonlServer
import OpticsSoftfail.JsonlFraming
import OpticsSoftfail.JsonText
import OpticsSoftfail.Utf8
import OpticsSoftfail.DownstreamClient
import OpticsSoftfail.InferReader
import OpticsSoftfail.FrameLink
import OpticsSoftfail.PathManagerLedger
import OpticsSoftfail.PathManagerLog
import OpticsSoftfail.PathManagerStatus
import OpticsSoftfail.PathManagerFrontEnds
import OpticsSoftfail.TopologyReading
import OpticsSoftfail.HealerEvidence
import OpticsSoftfail.InferOrder
import OpticsSoftfail.IngestGrammar
import OpticsSoftfail.IngestTimestamp
import OpticsSoftfail.ProducerRecord
import OpticsSoftfail.InferCounters
import OpticsSoftfail.SequenceStats
import OpticsSoftfail.HorizonHead
import OpticsSoftfail.HorizonLabels
import OpticsSoftfail.TrainingWindows
import OpticsSoftfail.InferOverruns
import OpticsSoftfail.InferServing
import OpticsSoftfail.LeastSquares
import OpticsSoftfail.OlsSlope
import OpticsSoftfail.PipelineCache
import OpticsSoftfail.GenerateCommand
import OpticsSoftfail.TrainingCorpus
import OpticsSoftfail.LinkTrace
import OpticsSoftfail.TelemetryScenario
import OpticsSoftfail.CorpusWindows
import OpticsSoftfail.AnomalyScores
import OpticsSoftfail.ProducerStream
import OpticsSoftfail.ReplayFrames
import OpticsSoftfail.DetectionPath
import OpticsSoftfail.ModelFitting
import OpticsSoftfail.TrainCommand
import OpticsSoftfail.FalseReroutes
