import Gamebook.Main
import Gamebook.Proofs.Analysis.Rotation
import Gamebook.Proofs.Story.Route
import Gamebook.Proofs.Analysis.LoopSearch
import Gamebook.Proofs.Analysis.Escape
import Gamebook.Proofs.Analysis.FirstEnding
import Gamebook.Proofs.Analysis.Reach
import Gamebook.Proofs.Analysis.Playthrough
import Gamebook.Proofs.Analysis.Walker
import Gamebook.Proofs.Analysis.Trap
import Gamebook.Proofs.Check.Acceptance
import Gamebook.Proofs.Check.SharedLoops
import Gamebook.Proofs.Story.Reordering
import Gamebook.Proofs.Analysis.DocumentOrder
import Gamebook.Proofs.Analysis.Agreement
import Gamebook.Proofs.Story.Ingestion
import Gamebook.Proofs.Check.Severity
import Gamebook.Proofs.Json.Widening
import Gamebook.Proofs.Check.Encoding
import Gamebook.Proofs.Json.Unambiguous
import Gamebook.Proofs.Export.Lossless
import Gamebook.Proofs.FileTree.Shape
import Gamebook.Proofs.FileTree.Operations
import Gamebook.Proofs.FileTree.Relisting
import Gamebook.Proofs.Document.Directory
import Gamebook.Proofs.Export.Write
import Gamebook.Proofs.Check.Plain
import Gamebook.Proofs.Command.Loading
import Gamebook.Proofs.Command.Build
import Gamebook.Proofs.Command.Loops
import Gamebook.Proofs.Analysis.LoopWalk
import Gamebook.Proofs.Text.Trimming
import Gamebook.Proofs.Document.FrontMatter
import Gamebook.Proofs.Export.Atomic
import Gamebook.Proofs.Text.Pattern
import Gamebook.Proofs.Text.CharClass
import Gamebook.Proofs.Marker.Words
import Gamebook.Proofs.Marker.Forms
import Gamebook.Proofs.Marker.Patterns
import Gamebook.Proofs.Marker.Scan
import Gamebook.Proofs.Marker.Declared
import Gamebook.Proofs.Text.Lines
import Gamebook.Proofs.Marker.Lines
import Gamebook.Proofs.Marker.Inline
import Gamebook.Proofs.Marker.SameWords
import Gamebook.Proofs.Check.Override
import Gamebook.Proofs.Yaml.Mapping
import Gamebook.Proofs.Document.Metadata
import Gamebook.Proofs.Story.Spellings
import Gamebook.Proofs.Story.EmptyBlock
import Gamebook.Proofs.Analysis.LoopRoom
import Gamebook.Proofs.Analysis.Duplicates
