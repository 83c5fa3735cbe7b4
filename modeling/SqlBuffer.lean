import SqlBuffer.Document.Edit
import SqlBuffer.Highlight
import SqlBuffer.Main
import SqlBuffer.Proofs.LineStart
import SqlBuffer.Proofs.Search
import SqlBuffer.Scan.Location
import SqlBuffer.Proofs.LineLookup
import SqlBuffer.Proofs.LineUpdate
import SqlBuffer.Proofs.ScanRun
import SqlBuffer.Proofs.TokenOrder
import SqlBuffer.Proofs.DocumentRun
import SqlBuffer.Proofs.BracketStack
import SqlBuffer.Proofs.BracketPartner
import SqlBuffer.Proofs.BracketWindow
import SqlBuffer.Proofs.LineScan
import SqlBuffer.Proofs.Tiling
import SqlBuffer.Proofs.LineFrame
import SqlBuffer.Proofs.EditFrame
import SqlBuffer.Proofs.ScanFailure
import SqlBuffer.Proofs.EditReport
import SqlBuffer.Proofs.FailedLines
import SqlBuffer.Proofs.DollarString
import SqlBuffer.Proofs.QuotedString
import SqlBuffer.Proofs.NumberGrammar
import SqlBuffer.Proofs.TokenForm
import SqlBuffer.Proofs.LineQuery
import SqlBuffer.Proofs.LineLocation
import SqlBuffer.Proofs.TokenPartition
import SqlBuffer.Proofs.ScanCalls
import SqlBuffer.Proofs.TokenRange
import SqlBuffer.Proofs.LineColours
import SqlBuffer.Proofs.TokenListing
import SqlBuffer.Proofs.EditRegion
import SqlBuffer.Proofs.TokenSplice
import SqlBuffer.Proofs.KeywordLookup
