import NetLookup.Main
import NetLookup.Text.Blank
import NetLookup.Text.Digit
import NetLookup.Text.Emoji
import NetLookup.Text.Width
import NetLookup.Text.Word
import NetLookup.CommandLine.Literal
import NetLookup.CommandLine.Style
import NetLookup.Proofs.Cache.History
import NetLookup.Proofs.Retry.Dependency
import NetLookup.Proofs.Cache.Used
import NetLookup.Proofs.Effect
import NetLookup.Proofs.Lookup.Asked
import NetLookup.Proofs.Lookup.Single
import NetLookup.Proofs.Lookup.Named
import NetLookup.Proofs.Lookup.Cluster
import NetLookup.Proofs.Session
import NetLookup.Proofs.Transparency
import NetLookup.Proofs.Freshness
import NetLookup.Proofs.AskedAgain
import NetLookup.Proofs.Contents
import NetLookup.Proofs.Failures
import NetLookup.Proofs.Escapes
import NetLookup.Proofs.Cache.Accounts
import NetLookup.Proofs.Footprint
import NetLookup.Proofs.Attempts
import NetLookup.Proofs.Lookup.Attempts
import NetLookup.Proofs.Retry.LastCall
import NetLookup.Proofs.Blame
import NetLookup.Proofs.Lookup.Candidates
import NetLookup.Proofs.Restricted
import NetLookup.Proofs.Retry.Stopping
import NetLookup.Proofs.Json.Laws
import NetLookup.Proofs.Lookup.Zones
import NetLookup.Proofs.Chosen
import NetLookup.Proofs.Remembered
import NetLookup.Proofs.Json.Parts
import NetLookup.Proofs.Batch
import NetLookup.Proofs.OwnNetwork
import NetLookup.Proofs.Verdicts
import NetLookup.Proofs.Grouping
import NetLookup.Proofs.CommandLine.Escape
import NetLookup.Proofs.CommandLine.Name
import NetLookup.Proofs.CommandLine.Shown
import NetLookup.Proofs.CommandLine.Words
import NetLookup.Proofs.CommandLine.Refinement
import NetLookup.Proofs.Pages
import NetLookup.Proofs.Codes
import NetLookup.Proofs.Absence
import NetLookup.Proofs.HostDocument
import NetLookup.Proofs.Retry.Stalling
import NetLookup.Proofs.Decimal.Doubling
import NetLookup.Proofs.Retry.Overflow
import NetLookup.Proofs.ResourceNames
