import SourceReport.Text.Lines
import SourceReport.Text.Slice
import SourceReport.Text.Decimal
import SourceReport.Text.Passage
import SourceReport.Text.Blank
import SourceReport.Text.CharClass.Numbers
import SourceReport.Text.CharClass.Printable
import SourceReport.Text.CharClass.Case
import SourceReport.Text.Quoted
import SourceReport.Text.Numeral
import SourceReport.Text.Fill
import SourceReport.Glyphs
import SourceReport.Emphasis
import SourceReport.Options
import SourceReport.Highlight.Shorthand
import SourceReport.Position
import SourceReport.Excerpt.Make
import SourceReport.Frame.Block
import SourceReport.Collector.Stream
import SourceReport.Markup.Diagnostic
import SourceReport.Json.Printer
import SourceReport.Record.Draft
import SourceReport.Record.Decode
import SourceReport.Grammar.Expression
import SourceReport.Pattern.Matcher
import SourceReport.Pattern.Reader
import SourceReport.Command.Run
import SourceReport.Main
import SourceReport.Text.CharClass.Names
import SourceReport.Proofs.Text.Filling
import SourceReport.Proofs.Frame.Display
import SourceReport.Proofs.Frame.Rows
import SourceReport.Proofs.Frame.Strips
import SourceReport.Proofs.Frame.Marks
import SourceReport.Proofs.Frame.Body
import SourceReport.Proofs.Frame.Width
import SourceReport.Proofs.Frame.Coverage
import SourceReport.Proofs.Frame.Alignment
import SourceReport.Proofs.Collector.Grouping
import SourceReport.Proofs.Text.LineFeeds
import SourceReport.Proofs.Excerpt.Between
import SourceReport.Proofs.Frame.Sharing
import SourceReport.Proofs.Json.Scanning
import SourceReport.Proofs.Json.Reading
import SourceReport.Proofs.Record.Roundtrip
import SourceReport.Proofs.Markup.Tokens
import SourceReport.Proofs.Markup.Masking
import SourceReport.Proofs.Markup.Report
import SourceReport.Proofs.Excerpt.Numbers
import SourceReport.Proofs.Markup.Reading
import SourceReport.Proofs.Markup.Runs
import SourceReport.Proofs.Markup.Agreement
import SourceReport.Proofs.Collector.Streaming
import SourceReport.Proofs.Collector.Remerging
import SourceReport.Proofs.Diagnostic.Nodes
import SourceReport.Proofs.Diagnostic.Keeping
import SourceReport.Proofs.Frame.Printable
import SourceReport.Proofs.Diagnostic.Colour
import SourceReport.Proofs.Record.Malformed
import SourceReport.Proofs.Text.CodeOrder
import SourceReport.Proofs.Text.WholeLine
import SourceReport.Proofs.Excerpt.Matched
import SourceReport.Proofs.Grammar.Failed
import SourceReport.Proofs.Markup.MaximalRuns
import SourceReport.Proofs.Pattern.Spans
import SourceReport.Proofs.Command.Scanning
import SourceReport.Proofs.Sorting
import SourceReport.Proofs.Highlight.Order
import SourceReport.Proofs.Frame.Independence
import SourceReport.Proofs.Frame.Tiling
import SourceReport.Proofs.Frame.Comments
import SourceReport.Proofs.Frame.GivenTexts
import SourceReport.Proofs.Highlight.Ranges
import SourceReport.Proofs.Markup.LineEnds
import SourceReport.Proofs.Excerpt.Changes
import SourceReport.Proofs.Collector.Answers
import SourceReport.Proofs.Excerpt.Reversed
import SourceReport.Proofs.Grammar.Locating
import SourceReport.Proofs.Frame.Packing
import SourceReport.Proofs.Text.SplitLines
import SourceReport.Proofs.Excerpt.LineNumbers
import SourceReport.Proofs.Frame.Guarded
