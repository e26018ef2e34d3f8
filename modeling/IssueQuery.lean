import IssueQuery.Command.Arguments
import IssueQuery.Command.Machine
import IssueQuery.Disk.Cell
import IssueQuery.Disk.Tree
import IssueQuery.Failure.Envelope
import IssueQuery.Main
import IssueQuery.Manual.JsonSchema
import IssueQuery.Proofs.Channels
import IssueQuery.Proofs.Counting
import IssueQuery.Proofs.Expansion
import IssueQuery.Proofs.FaultPlaces
import IssueQuery.Proofs.FilterText
import IssueQuery.Proofs.Listing
import IssueQuery.Proofs.Narrowing
import IssueQuery.Proofs.Paging
import IssueQuery.Proofs.Printing
import IssueQuery.Proofs.Recoding
import IssueQuery.Proofs.Registers
import IssueQuery.Proofs.Results
import IssueQuery.Proofs.Rules
import IssueQuery.Proofs.Slices
import IssueQuery.Proofs.Tallies
import IssueQuery.Query.Execution
import IssueQuery.Service.Client
import IssueQuery.Service.Script
import IssueQuery.Settings.File
import IssueQuery.Proofs.Clauses
import IssueQuery.Proofs.Rearrangement
import IssueQuery.Proofs.Precedence
import IssueQuery.Proofs.Circles
import IssueQuery.Proofs.Endpoints
import IssueQuery.Proofs.BoardNumbers
import IssueQuery.Proofs.Safekeeping
import IssueQuery.Proofs.Lexemes
import IssueQuery.Proofs.Segments
import IssueQuery.Proofs.Descriptions
import IssueQuery.Proofs.DistinctNames
import IssueQuery.Proofs.Halts
