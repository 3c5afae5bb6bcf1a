import TypeFixtures.FileTree.Access
import TypeFixtures.Main
import TypeFixtures.Proofs.Catalog.FirstFault
import TypeFixtures.Proofs.Config.Reading
import TypeFixtures.Proofs.FileTree.Written
import TypeFixtures.Proofs.Receiver.Taking
import TypeFixtures.Proofs.Script.Layout
import TypeFixtures.Proofs.Command.Run
import TypeFixtures.Proofs.Listing.Agreement
import TypeFixtures.Proofs.Generate.Resolution
import TypeFixtures.Proofs.Script.Actions
import TypeFixtures.Proofs.Descriptor.Naming
import TypeFixtures.Proofs.Table.Columns
import TypeFixtures.Proofs.Script.Outline
import TypeFixtures.Proofs.Config.Override
import TypeFixtures.Proofs.FileTree.Directories
import TypeFixtures.Proofs.Generate.Refusal
import TypeFixtures.Proofs.FilePath.Pieces
import TypeFixtures.Proofs.FileTree.Changes
import TypeFixtures.Proofs.FileTree.Ways
import TypeFixtures.Proofs.Scaffold.Keeping
import TypeFixtures.Proofs.CommandLine.Trace
import TypeFixtures.Proofs.Scaffold.RoundTrip
import TypeFixtures.Proofs.Script.Names
import TypeFixtures.Proofs.Receiver.Stopping
import TypeFixtures.Proofs.Script.Sending
import TypeFixtures.Proofs.Listing.Streaming
import TypeFixtures.Proofs.CommandLine.Printing
import TypeFixtures.Proofs.Config.Outcome
import TypeFixtures.Proofs.Yaml.Values
import TypeFixtures.Proofs.Catalog.Shapes
import TypeFixtures.Proofs.Yaml.Ascii
import TypeFixtures.Proofs.Yaml.Written
import TypeFixtures.Proofs.Catalog.Rendered
import TypeFixtures.Proofs.Json.Reader
import TypeFixtures.Proofs.Json.RoundTrip
import TypeFixtures.Proofs.Listing.Decoding
import TypeFixtures.Proofs.Scaffold.Whole
import TypeFixtures.Proofs.Generate.Repetition
import TypeFixtures.Proofs.CommandLine.Spelling
import TypeFixtures.Proofs.Script.Parentheses
import TypeFixtures.Proofs.Table.Depths
import TypeFixtures.Proofs.Script.Depths
