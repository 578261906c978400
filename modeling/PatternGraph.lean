import PatternGraph.Main
import PatternGraph.Proofs.RuleReading
import PatternGraph.Proofs.ShortestMatch
import PatternGraph.Proofs.TextbookAgreement
import PatternGraph.Proofs.ErrorLocation
import PatternGraph.Proofs.AcceptingStates
import PatternGraph.Proofs.Concatenation
import PatternGraph.Proofs.BuilderHistory
import PatternGraph.Proofs.DisplayReading
import PatternGraph.Proofs.DumpReading
import PatternGraph.Proofs.EnteredStates
import PatternGraph.Proofs.PassSafety
import PatternGraph.Proofs.TraceReplay
import PatternGraph.Proofs.Scanning
import PatternGraph.Proofs.ErrorKinds
import PatternGraph.Proofs.OfferedFix
import PatternGraph.Proofs.WalkTracer
import PatternGraph.Proofs.WalkAccount
import PatternGraph.Proofs.TabledSets
import PatternGraph.Proofs.Elements
import PatternGraph.Proofs.RepeatedElements
import PatternGraph.Proofs.ClassMembers
import PatternGraph.Proofs.TrailingLoops
import PatternGraph.Proofs.InputAnswers
import PatternGraph.Proofs.Decoration
import PatternGraph.Proofs.MarkedRanges
