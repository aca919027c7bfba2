import ProgramGraph.Classifier.Basic
import ProgramGraph.Classifier.Tables
import ProgramGraph.CommandLine.Arguments
import ProgramGraph.CommandLine.Outcome
import ProgramGraph.Corpus
import ProgramGraph.Diagnostic
import ProgramGraph.Dotted
import ProgramGraph.Edge
import ProgramGraph.FileTree
import ProgramGraph.Fingerprint
import ProgramGraph.Fingerprint.Blake3
import ProgramGraph.Graph.Audit
import ProgramGraph.Graph.Basic
import ProgramGraph.Graph.Statistics
import ProgramGraph.Ignore.Glob
import ProgramGraph.Ignore.Rules
import ProgramGraph.Main
import ProgramGraph.ModuleName
import ProgramGraph.Node
import ProgramGraph.Outline
import ProgramGraph.Outline.Visit
import ProgramGraph.Path
import ProgramGraph.Problem
import ProgramGraph.Proofs.Corpus.Audit
import ProgramGraph.Proofs.Corpus.Containment
import ProgramGraph.Proofs.Corpus.EdgeKinds
import ProgramGraph.Proofs.Corpus.Entries
import ProgramGraph.Proofs.Corpus.Imports
import ProgramGraph.Proofs.Corpus.InheritedMethods
import ProgramGraph.Proofs.Corpus.Intake
import ProgramGraph.Proofs.Corpus.Loss
import ProgramGraph.Proofs.Corpus.MissingMethods
import ProgramGraph.Proofs.Corpus.Modules
import ProgramGraph.Proofs.Corpus.SelfCalls
import ProgramGraph.Proofs.Corpus.Skipped
import ProgramGraph.Proofs.Graph.Basic
import ProgramGraph.Proofs.Graph.Containment
import ProgramGraph.Proofs.Graph.Forest
import ProgramGraph.Proofs.Graph.Orphans
import ProgramGraph.Proofs.Graph.Placement
import ProgramGraph.Proofs.Outline.Contained
import ProgramGraph.Proofs.Outline.Declarations
import ProgramGraph.Proofs.Outline.Kinds
import ProgramGraph.Proofs.Outline.Labels
import ProgramGraph.Proofs.Outline.Listing
import ProgramGraph.Proofs.Outline.Trail
import ProgramGraph.Proofs.Reference
import ProgramGraph.Proofs.Resolution
import ProgramGraph.Proofs.Resolution.Calls
import ProgramGraph.Proofs.Resolution.Coverage
import ProgramGraph.Proofs.Resolution.Imports
import ProgramGraph.Proofs.Resolution.Inheritance
import ProgramGraph.Proofs.Resolution.Merge
import ProgramGraph.Proofs.Resolution.Methods
import ProgramGraph.Proofs.Resolution.Moves
import ProgramGraph.Proofs.Resolution.Records
import ProgramGraph.Proofs.Resolution.Typing
import ProgramGraph.Proofs.Symbols
import ProgramGraph.Reference
import ProgramGraph.Report
import ProgramGraph.Report.Value
import ProgramGraph.Resolution.Calls
import ProgramGraph.Resolution.Imports
import ProgramGraph.Resolution.Inheritance
import ProgramGraph.Resolution.Linking
import ProgramGraph.Resolution.Methods
import ProgramGraph.Resolution.Run
import ProgramGraph.Scan
import ProgramGraph.Settings
import ProgramGraph.Symbols
import ProgramGraph.Syntax.Automaton
import ProgramGraph.Syntax.Automaton.Choices
import ProgramGraph.Syntax.Automaton.Gotos
import ProgramGraph.Syntax.Automaton.Packed
import ProgramGraph.Syntax.Automaton.Productions
import ProgramGraph.Syntax.Automaton.Shifts
import ProgramGraph.Syntax.Automaton.States
import ProgramGraph.Syntax.Construct
import ProgramGraph.Syntax.Extent
import ProgramGraph.Syntax.Layout
import ProgramGraph.Syntax.Lexeme
import ProgramGraph.Syntax.Machine
import ProgramGraph.Syntax.Machine.Recovery
import ProgramGraph.Syntax.Machine.Reduction
import ProgramGraph.Syntax.Machine.Run
import ProgramGraph.Syntax.Machine.Token
import ProgramGraph.Syntax.Numeral
import ProgramGraph.Syntax.Reading
import ProgramGraph.Syntax.Source
import ProgramGraph.Syntax.Stack
import ProgramGraph.Syntax.Subtree
import ProgramGraph.Syntax.Tree
import ProgramGraph.Syntax.Vocabulary
import ProgramGraph.Tally
import ProgramGraph.Text.Blank
import ProgramGraph.Text.Clip
import ProgramGraph.Text.Digit
import ProgramGraph.Text.Identifier
import ProgramGraph.Text.Split
import ProgramGraph.Proofs.Corpus.Additions
import ProgramGraph.Proofs.Outline.WellFormed
import ProgramGraph.Proofs.Resolution.KeptCalls
import ProgramGraph.Proofs.Corpus.KeptCalls
import ProgramGraph.Proofs.Corpus.Order
import ProgramGraph.Proofs.Resolution.Reach
import ProgramGraph.Proofs.ModuleName
import ProgramGraph.Proofs.Outline.CallNodes
import ProgramGraph.Proofs.Graph.Refusal
import ProgramGraph.Proofs.Text.Bytes
import ProgramGraph.Proofs.Fingerprint
import ProgramGraph.Proofs.Graph.Queries
import ProgramGraph.Proofs.Resolution.Sweeps
import ProgramGraph.Proofs.Symbols.History
import ProgramGraph.Proofs.Corpus.Counters
import ProgramGraph.Proofs.Dotted
import ProgramGraph.Proofs.Text.Clip
import ProgramGraph.Proofs.Resolution.TableRuns
