import ReleaseBundle.Artifact
import ReleaseBundle.Assembly
import ReleaseBundle.BuildError
import ReleaseBundle.Bundle
import ReleaseBundle.CommandLine.Arguments
import ReleaseBundle.CommandLine.Launch
import ReleaseBundle.CommandLine.LogFilter
import ReleaseBundle.CommandLine.LogLine
import ReleaseBundle.ConfigFile
import ReleaseBundle.Digest
import ReleaseBundle.FileSystem.Basic
import ReleaseBundle.FileSystem.Operations
import ReleaseBundle.FileSystem.Resolve
import ReleaseBundle.Journal
import ReleaseBundle.Loading
import ReleaseBundle.Main
import ReleaseBundle.Manifest
import ReleaseBundle.Minifier
import ReleaseBundle.OrderedMap
import ReleaseBundle.Path
import ReleaseBundle.Pattern.Atom
import ReleaseBundle.Pattern.Basic
import ReleaseBundle.Pattern.Bracket
import ReleaseBundle.Pattern.Charset
import ReleaseBundle.Pattern.Cursor
import ReleaseBundle.Pattern.Extent
import ReleaseBundle.Pattern.Fault
import ReleaseBundle.Pattern.Footprint
import ReleaseBundle.Pattern.Meaning
import ReleaseBundle.Pattern.Property
import ReleaseBundle.Pattern.PropertyName
import ReleaseBundle.Pattern.Reader
import ReleaseBundle.Pattern.Reduced
import ReleaseBundle.Pattern.Refusal
import ReleaseBundle.Pattern.Segment
import ReleaseBundle.Pattern.Tree
import ReleaseBundle.Pipeline
import ReleaseBundle.Placeholder
import ReleaseBundle.Program
import ReleaseBundle.Projection
import ReleaseBundle.Proofs.ArtifactPlaces
import ReleaseBundle.Proofs.ArtifactTexts
import ReleaseBundle.Proofs.AssembledScript
import ReleaseBundle.Proofs.Attainment
import ReleaseBundle.Proofs.BuildResult
import ReleaseBundle.Proofs.CheckedGroups
import ReleaseBundle.Proofs.CleanValidation
import ReleaseBundle.Proofs.Confinement
import ReleaseBundle.Proofs.Content
import ReleaseBundle.Proofs.Copies
import ReleaseBundle.Proofs.Directory
import ReleaseBundle.Proofs.Effect
import ReleaseBundle.Proofs.ExactOrphans
import ReleaseBundle.Proofs.ExactReport
import ReleaseBundle.Proofs.Expansion
import ReleaseBundle.Proofs.ExpansionCalls
import ReleaseBundle.Proofs.ExpansionFailure
import ReleaseBundle.Proofs.FailureSideBySide
import ReleaseBundle.Proofs.FaithfulCopies
import ReleaseBundle.Proofs.FalseOrphans
import ReleaseBundle.Proofs.Finalization
import ReleaseBundle.Proofs.FirstFailure
import ReleaseBundle.Proofs.FirstTriple
import ReleaseBundle.Proofs.GrowingRuns
import ReleaseBundle.Proofs.Growth
import ReleaseBundle.Proofs.InTurn
import ReleaseBundle.Proofs.KeptTree
import ReleaseBundle.Proofs.KnownModules
import ReleaseBundle.Proofs.Layering
import ReleaseBundle.Proofs.LeftmostLiterals
import ReleaseBundle.Proofs.MakingDirectories
import ReleaseBundle.Proofs.Overlay
import ReleaseBundle.Proofs.Overwriting
import ReleaseBundle.Proofs.Pipelines
import ReleaseBundle.Proofs.PlainPaths
import ReleaseBundle.Proofs.Rebuild
import ReleaseBundle.Proofs.Refusals
import ReleaseBundle.Proofs.RefusedScripts
import ReleaseBundle.Proofs.Resolution
import ReleaseBundle.Proofs.Restamping
import ReleaseBundle.Proofs.Retracing
import ReleaseBundle.Proofs.SameExpansion
import ReleaseBundle.Proofs.ScriptShape
import ReleaseBundle.Proofs.SideBySide
import ReleaseBundle.Proofs.Spelling
import ReleaseBundle.Proofs.Stamping
import ReleaseBundle.Proofs.StampingTwice
import ReleaseBundle.Proofs.Tour
import ReleaseBundle.Proofs.TreeOrder
import ReleaseBundle.Proofs.Turns
import ReleaseBundle.Proofs.ValidationResult
import ReleaseBundle.Proofs.VersionRoundTrip
import ReleaseBundle.Proofs.Walk
import ReleaseBundle.Schedule
import ReleaseBundle.Settings
import ReleaseBundle.Text.Blank
import ReleaseBundle.Text.Break
import ReleaseBundle.Text.CaseFold
import ReleaseBundle.Text.Category
import ReleaseBundle.Text.ControlSequence
import ReleaseBundle.Text.Digit
import ReleaseBundle.Text.Edition
import ReleaseBundle.Text.Interval
import ReleaseBundle.Text.Letter
import ReleaseBundle.Text.Line
import ReleaseBundle.Text.Octets
import ReleaseBundle.Text.Quoted
import ReleaseBundle.Text.Run
import ReleaseBundle.Text.Script
import ReleaseBundle.Text.Shapeless
import ReleaseBundle.Text.Trait
import ReleaseBundle.Text.Utf8
import ReleaseBundle.Toml.Document
import ReleaseBundle.Toml.Scalar
import ReleaseBundle.Toml.Token
import ReleaseBundle.Toml.Value
import ReleaseBundle.Validation
import ReleaseBundle.Version
