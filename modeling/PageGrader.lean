import PageGrader.Address
import PageGrader.Address.Escape
import PageGrader.Address.Host
import PageGrader.Address.Punycode
import PageGrader.CommandLine
import PageGrader.Decimal.Binary64
import PageGrader.Decimal.Text
import PageGrader.Display
import PageGrader.Document
import PageGrader.Execution
import PageGrader.Finding
import PageGrader.Forest
import PageGrader.Handle
import PageGrader.Heading
import PageGrader.Image.Measurement
import PageGrader.Image.Plan
import PageGrader.Image.Source
import PageGrader.Input
import PageGrader.Json
import PageGrader.Line
import PageGrader.Main
import PageGrader.Markup.Balance
import PageGrader.Markup.Doctype
import PageGrader.Markup.Lexer
import PageGrader.Markup.Reference
import PageGrader.Markup.Reference.Names
import PageGrader.Markup.Token
import PageGrader.Moment
import PageGrader.RedFlag
import PageGrader.Reference
import PageGrader.Registry
import PageGrader.Registry.Session
import PageGrader.Report
import PageGrader.Rule
import PageGrader.Rule.FileName
import PageGrader.Rule.Hierarchy
import PageGrader.Rule.Landmark
import PageGrader.Rule.Media
import PageGrader.Rule.Metadata
import PageGrader.Rule.Navigation
import PageGrader.Rule.Placement
import PageGrader.Rule.Skeleton
import PageGrader.Run
import PageGrader.Score
import PageGrader.Selector
import PageGrader.Settings
import PageGrader.Sorting
import PageGrader.Table
import PageGrader.Text.Blank
import PageGrader.Text.Digits
import PageGrader.Text.Fold
import PageGrader.Text.Shape
import PageGrader.Text.Word
import PageGrader.Transcript
import PageGrader.Tree.Adoption
import PageGrader.Tree.Builder
import PageGrader.Tree.Mode.Body
import PageGrader.Tree.Mode.Ending
import PageGrader.Tree.Mode.Foreign
import PageGrader.Tree.Mode.Head
import PageGrader.Tree.Mode.Select
import PageGrader.Tree.Mode.Table
import PageGrader.Tree.Nodes
import PageGrader.Tree.Opened
import PageGrader.Tree.Reading
import PageGrader.Tree.Settled
import PageGrader.Proofs.Execution
import PageGrader.Proofs.Query
import PageGrader.Proofs.Run
import PageGrader.Image.Schedule
import PageGrader.Proofs.Measurement
import PageGrader.Proofs.Requests
import PageGrader.Proofs.Citation
import PageGrader.Proofs.Evidence
import PageGrader.Proofs.Provisional
import PageGrader.Proofs.Findings
import PageGrader.Proofs.Nodes
import PageGrader.Proofs.Lookups
import PageGrader.Proofs.Growth
import PageGrader.Proofs.Building
import PageGrader.Proofs.Modes
import PageGrader.Proofs.Outline
import PageGrader.Proofs.Grown
import PageGrader.Proofs.Keeping
import PageGrader.Proofs.Layout
import PageGrader.Proofs.Laid
import PageGrader.Proofs.Body
import PageGrader.Proofs.Table
import PageGrader.Proofs.Ending
import PageGrader.Proofs.Construction
import PageGrader.Proofs.Settled
import PageGrader.Proofs.Order
import PageGrader.Proofs.Numbering
import PageGrader.Proofs.Framed
import PageGrader.Proofs.Line
import PageGrader.Proofs.Letters
import PageGrader.Proofs.Scan
import PageGrader.Proofs.Written
import PageGrader.Proofs.Counting
import PageGrader.Proofs.Balanced
import PageGrader.Proofs.EndTags
import PageGrader.Proofs.Registry
import PageGrader.Proofs.Persistence
import PageGrader.Proofs.Rounding
import PageGrader.Proofs.Arithmetic
import PageGrader.Proofs.Report
import PageGrader.Proofs.Formats
import PageGrader.Proofs.Tags
import PageGrader.Proofs.Hierarchy
import PageGrader.Proofs.Heading
import PageGrader.Proofs.SchemeCase
import PageGrader.Proofs.Commented
import PageGrader.Proofs.Surroundings
import PageGrader.Proofs.Navigation
import PageGrader.Proofs.Scoring
import PageGrader.Proofs.Messages
import PageGrader.Proofs.Transcript
import PageGrader.Proofs.Skeleton
import PageGrader.Proofs.Agreement
import PageGrader.Proofs.Display
import PageGrader.Proofs.Reference
import PageGrader.Proofs.Offenders
import PageGrader.Proofs.FileName
import PageGrader.Proofs.Taken
import PageGrader.Proofs.RedFlag
import PageGrader.Proofs.Gate
import PageGrader.Proofs.SelfClosing
import PageGrader.Proofs.Occurrences
