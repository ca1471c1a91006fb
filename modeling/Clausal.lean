import Clausal.Main
import Clausal.Sentence.Shape
import Clausal.Session
import Clausal.Proofs.Grouping.Balance
import Clausal.Proofs.Grouping.Division
import Clausal.Proofs.Grouping.Enclosure
import Clausal.Proofs.Grouping.Parts
import Clausal.Proofs.Grouping.Relabelling
import Clausal.Proofs.Grouping.Surroundings
import Clausal.Proofs.Grouping.Padding
import Clausal.Proofs.Grouping.Mismatch
import Clausal.Proofs.Grouping.Stripping
import Clausal.Proofs.Reading.Levels
import Clausal.Proofs.Reading.Outcome
import Clausal.Proofs.Reading.Grammar
import Clausal.Proofs.Reading.Verdict
import Clausal.Proofs.Reading.Groups
import Clausal.Proofs.Reading.Spelling
import Clausal.Proofs.Reading.RoundTrip
import Clausal.Proofs.Reading.ClausalRoundTrip
import Clausal.Proofs.Reading.Faults
import Clausal.Proofs.Reading.Agreement
import Clausal.Proofs.Reading.Conservation
import Clausal.Proofs.Sentence.Ambiguity
import Clausal.Proofs.Reading.Simulation
import Clausal.Proofs.Reading.Redundancy
import Clausal.Proofs.Reading.Slices
import Clausal.Proofs.Reading.Blanks
import Clausal.Proofs.Reading.Culprits
import Clausal.Proofs.Reading.Omissions
import Clausal.Proofs.Instance.Draws
import Clausal.Proofs.Instance.Stream
import Clausal.Proofs.Instance.ReadBack
import Clausal.Proofs.Instance.Acceptance
import Clausal.Proofs.Text.Separators
import Clausal.Proofs.Sentence.Stacking
import Clausal.Proofs.Sentence.Layouts
import Clausal.Proofs.Files.Writing
import Clausal.Proofs.CommandLine.Runs
import Clausal.Proofs.CommandLine.SeededRuns
import Clausal.Proofs.Files.SentenceFiles
import Clausal.Proofs.Files.Channels
import Clausal.Proofs.Binary64.Overflow
import Clausal.Proofs.Binary64.Halves
import Clausal.Proofs.CommandLine.Work
import Clausal.Proofs.Text.Utf8
import Clausal.Proofs.Text.Newline
import Clausal.Proofs.CommandLine.Endings
import Clausal.Proofs.CommandLine.Effects
import Clausal.Proofs.CommandLine.Choices
import Clausal.Proofs.CommandLine.Placement
import Clausal.Proofs.Session.Requests
import Clausal.Proofs.Reading.FirstFault
import Clausal.Proofs.Reading.Budgets
