import ParserHost.Main
import ParserHost.Proofs.Run.Cleanup
import ParserHost.Proofs.Run.Delivery
import ParserHost.Proofs.Run.Documents
import ParserHost.Proofs.Run.Escape
import ParserHost.Proofs.Run.Messages
import ParserHost.Proofs.Run.Termination
import ParserHost.Proofs.Run.Transport
import ParserHost.Proofs.Exchange.Concatenation
import ParserHost.Proofs.Exchange.Payloads
import ParserHost.Proofs.Exchange.Variants
import ParserHost.Proofs.Discovery.Exclusion
import ParserHost.Proofs.Run.Launches
import ParserHost.Proofs.Run.Diagnostics
import ParserHost.Proofs.CommandLine.Parse
import ParserHost.Proofs.Run.Undecoded
import ParserHost.Proofs.CommandLine.Inputs
import ParserHost.Proofs.Run.Starting
import ParserHost.Proofs.Exchange.Fusion
import ParserHost.Proofs.Glob.Expansion
import ParserHost.Proofs.Glob.Nesting
import ParserHost.Proofs.Discovery.Comprehension
import ParserHost.Proofs.Discovery.Directories
import ParserHost.Proofs.Config.PassThrough
import ParserHost.Proofs.Links.Azure
import ParserHost.Proofs.Links.Sources
import ParserHost.Proofs.Links.Clones
import ParserHost.Proofs.Links.Detection
import ParserHost.Proofs.Run.Finalization
import ParserHost.Proofs.Launch.CustomCommands
import ParserHost.Proofs.Launch.Lives
import ParserHost.Proofs.Launch.Stays
import ParserHost.Proofs.Launch.Registrations
import ParserHost.Proofs.Console.Verbosity
import ParserHost.Proofs.Run.Capture
import ParserHost.Proofs.Schema.FieldPaths
import ParserHost.Proofs.Config.Timeouts
import ParserHost.Proofs.Console.Highlighting
