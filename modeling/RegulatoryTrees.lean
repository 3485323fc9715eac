import RegulatoryTrees.Json
import RegulatoryTrees.Digest
import RegulatoryTrees.Format.Reading
import RegulatoryTrees.Format.Writing
import RegulatoryTrees.Graph
import RegulatoryTrees.Layout
import RegulatoryTrees.Evaluation.Cache
import RegulatoryTrees.Conflict.Detection
import RegulatoryTrees.Conflict.Merging
import RegulatoryTrees.Registry
import RegulatoryTrees.Service
import RegulatoryTrees.Proofs.Outcome
import RegulatoryTrees.Proofs.Tree.Walk
import RegulatoryTrees.Proofs.Partial.Survey
import RegulatoryTrees.Proofs.Partial.Completion
import RegulatoryTrees.Proofs.Partial.Exploration
import RegulatoryTrees.Proofs.Condition.Limits
import RegulatoryTrees.Proofs.Evaluation.Steps
import RegulatoryTrees.Proofs.Evaluation.Cache
import RegulatoryTrees.Proofs.Evaluation.EqualFacts
import RegulatoryTrees.Proofs.Evaluation.Totality
import RegulatoryTrees.Proofs.Conflict.Order
import RegulatoryTrees.Proofs.Conflict.Pairs
import RegulatoryTrees.Proofs.Json.Plain
import RegulatoryTrees.Proofs.Service.Coherence
import RegulatoryTrees.Proofs.Service.Transparency
import RegulatoryTrees.Proofs.Value.Reordering
import RegulatoryTrees.Proofs.Evaluation.FactHash
import RegulatoryTrees.Proofs.Registry
import RegulatoryTrees.Proofs.Format.RoundTrip
import RegulatoryTrees.Proofs.Layout.Exact
import RegulatoryTrees.Proofs.Layout.Links
import RegulatoryTrees.Proofs.Layout.Separation
import RegulatoryTrees.Proofs.Evaluation.Locality
import RegulatoryTrees.Proofs.Partial.Result
import RegulatoryTrees.Proofs.Partial.Narrowing
import RegulatoryTrees.Proofs.Partial.Determinacy
import RegulatoryTrees.Proofs.Evaluation.CacheHistory
import RegulatoryTrees.Proofs.Placement
import RegulatoryTrees.Proofs.StableSort
import RegulatoryTrees.Proofs.Registry.Scan
import RegulatoryTrees.Proofs.Pattern.Language
import RegulatoryTrees.Proofs.Conflict.Classification
import RegulatoryTrees.Proofs.Conflict.Seams
import RegulatoryTrees.Proofs.Evaluation.Path
import RegulatoryTrees.Proofs.Number.Ranges
import RegulatoryTrees.Proofs.Layout.Bounds
import RegulatoryTrees.Proofs.Layout.Marks
import RegulatoryTrees.Proofs.Graph
import RegulatoryTrees.Proofs.Highlights
import RegulatoryTrees.Proofs.Value.Equivalence
import RegulatoryTrees.Proofs.Evaluation.Diagnostics
import RegulatoryTrees.Proofs.Registry.Progress
import RegulatoryTrees.Proofs.Registry.Operators
import RegulatoryTrees.Proofs.Graph.Dot
import RegulatoryTrees.Proofs.Graph.ReadingBack
import RegulatoryTrees.Proofs.Service.Consulting
import RegulatoryTrees.Proofs.Service.Loading
import RegulatoryTrees.Proofs.FactPath.Position
import RegulatoryTrees.Proofs.Condition.Comparison
import RegulatoryTrees.Proofs.Evaluation.Replay
import RegulatoryTrees.Proofs.Conflict.Timelines
import RegulatoryTrees.Proofs.Evaluation.Reports
import RegulatoryTrees.Proofs.Layout.Crossing
import RegulatoryTrees.Proofs.Layout.Canvas
import RegulatoryTrees.Proofs.Layout.Translation
import RegulatoryTrees.Proofs.Layout.Depiction
import RegulatoryTrees.Proofs.Graph.Occurrences
import RegulatoryTrees.Proofs.Format.Spelling
import RegulatoryTrees.Proofs.Conflict.Reports
import RegulatoryTrees.Proofs.FirstOccurrences
import RegulatoryTrees.Proofs.Tree.Traversals
import RegulatoryTrees.Proofs.Partial.WalkOrder
import RegulatoryTrees.Proofs.Conflict.Merging
import RegulatoryTrees.Proofs.Text.Lowercase
import RegulatoryTrees.Proofs.Tree.Search
