import ScriptAudit.CommandLine.ProgressBar
import ScriptAudit.Job.Runner
import ScriptAudit.Log.Setup
import ScriptAudit.Main
import ScriptAudit.Proofs.CompletionOrder
import ScriptAudit.Proofs.FileShape
import ScriptAudit.Proofs.LookUp
import ScriptAudit.Proofs.SearchRun
import ScriptAudit.Proofs.Trails
import ScriptAudit.Proofs.SearchDepth
import ScriptAudit.Proofs.Reachability
import ScriptAudit.Proofs.ReportedPath
import ScriptAudit.Proofs.ProjectReport
import ScriptAudit.Proofs.DamagedBytes
import ScriptAudit.Proofs.Diagnosis
import ScriptAudit.Proofs.Candidates
import ScriptAudit.Proofs.EligibleFiles
import ScriptAudit.Proofs.ListingOrder
import ScriptAudit.Proofs.WarningCauses
import ScriptAudit.Proofs.SearchLog
import ScriptAudit.Proofs.WarningTexts
import ScriptAudit.Proofs.NamedExtensions
import ScriptAudit.Proofs.ExtensionGrammars
import ScriptAudit.Proofs.RunEnds
import ScriptAudit.Proofs.JobCourse
import ScriptAudit.Proofs.JobEnds
import ScriptAudit.Proofs.JobOrder
import ScriptAudit.Proofs.ProgressScale
import ScriptAudit.Proofs.JobProgress
import ScriptAudit.Proofs.ScriptTags
import ScriptAudit.Proofs.ScriptBlocks
import ScriptAudit.Proofs.TextPlaces
import ScriptAudit.Proofs.ScriptPlaces
import ScriptAudit.Proofs.IssuePlaces
import ScriptAudit.Proofs.ExcludedDirectories
import ScriptAudit.Proofs.EmptiedFiles
import ScriptAudit.Proofs.RewrittenFile
import ScriptAudit.Proofs.CommaSeparated
import ScriptAudit.Proofs.JoinedPairs
import ScriptAudit.Proofs.LosslessReport
import ScriptAudit.Proofs.Annotations
import ScriptAudit.Proofs.EscapedMessages
import ScriptAudit.Proofs.Renderings
import ScriptAudit.Proofs.TreeWalk
import ScriptAudit.Proofs.NodesBelow
import ScriptAudit.Proofs.NestedScores
import ScriptAudit.Proofs.RuleFindings
import ScriptAudit.Proofs.NameIndex
import ScriptAudit.Proofs.UnusedVariables
import ScriptAudit.Proofs.DeadStatements
import ScriptAudit.Proofs.DocumentOrder
import ScriptAudit.Proofs.DamagedNodes
import ScriptAudit.Proofs.SeverityGate
import ScriptAudit.Proofs.DistinctKeys
import ScriptAudit.Proofs.SettingPrecedence
import ScriptAudit.Proofs.SettingDemands
import ScriptAudit.Proofs.LoadingEnds
import ScriptAudit.Proofs.EndlessLoops
import ScriptAudit.Proofs.ArrayPipelines
import ScriptAudit.Proofs.LoopNests
import ScriptAudit.Proofs.NestedExits
import ScriptAudit.Proofs.PatternMatches
import ScriptAudit.Proofs.RepeatedQuantifiers
import ScriptAudit.Proofs.SubtreeReadings
import ScriptAudit.Proofs.UnhandledPromises
import ScriptAudit.Proofs.PromiseChains
import ScriptAudit.Proofs.Injections
import ScriptAudit.Proofs.SourceRoots
import ScriptAudit.Proofs.DirectCandidates
import ScriptAudit.Proofs.JsonScalars
import ScriptAudit.Proofs.JsonGrammar
import ScriptAudit.Proofs.LinterMessages
import ScriptAudit.Proofs.AbsorbedFailures
import ScriptAudit.Proofs.IndexRange
import ScriptAudit.Proofs.ProjectSums
import ScriptAudit.Proofs.ProgressSteps
import ScriptAudit.Proofs.RoundedPercentages
import ScriptAudit.Proofs.DamagedText
import ScriptAudit.Proofs.LineFeeds
import ScriptAudit.Proofs.WorstFiles
import ScriptAudit.Proofs.LinkWays
import ScriptAudit.Proofs.CanonicalRoots
import ScriptAudit.Proofs.LinterLifetimes
