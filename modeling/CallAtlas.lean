import CallAtlas.File.Tree
import CallAtlas.Main
import CallAtlas.Tools.Serve
import CallAtlas.Proofs.Json.Reading
import CallAtlas.Proofs.Graph.Runs
import CallAtlas.Proofs.Graph.RoundTrip
import CallAtlas.Proofs.Graph.Walks
import CallAtlas.Proofs.Graph.CallTrees
import CallAtlas.Proofs.Graph.Outlines
import CallAtlas.Proofs.Graph.Reachable
import CallAtlas.Proofs.Trace.Names
import CallAtlas.Proofs.Graph.Extract
import CallAtlas.Proofs.Graph.Frozen
import CallAtlas.Proofs.Graph.Counting
import CallAtlas.Proofs.Graph.Listings
import CallAtlas.Proofs.Graph.Joining
import CallAtlas.Proofs.Graph.Cleaning
import CallAtlas.Proofs.Graph.Refusals
import CallAtlas.Proofs.Graph.Reorderings
import CallAtlas.Proofs.Tools.Questions
import CallAtlas.Proofs.Cli.Agreement
import CallAtlas.Proofs.Graph.Totals
import CallAtlas.Proofs.Tools.Answers
import CallAtlas.Proofs.Graph.Fates
import CallAtlas.Proofs.Text.Percent
import CallAtlas.Proofs.Site.Links
import CallAtlas.Proofs.File.Tree
import CallAtlas.Proofs.Site.Writing
import CallAtlas.Proofs.Load
import CallAtlas.Proofs.Text.Segments
import CallAtlas.Proofs.Trace.Margins
import CallAtlas.Proofs.Graph.Margins
import CallAtlas.Proofs.Graph.Numerals
import CallAtlas.Proofs.Cli.Signatures
import CallAtlas.Proofs.Graph.Limits
import CallAtlas.Proofs.Tools.Neighbours
import CallAtlas.Proofs.File.Files
import CallAtlas.Proofs.Site.Decoding
import CallAtlas.Proofs.Site.Sharing
