import DocSchema.Main
import DocSchema.Proofs.Chain
import DocSchema.Proofs.Lists
import DocSchema.Proofs.Inference.Parts
import DocSchema.Proofs.Inference.Course
import DocSchema.Proofs.Inference.WellFormed
import DocSchema.Proofs.Entity.Loading
import DocSchema.Proofs.Entity.Filling
import DocSchema.Proofs.Entity.Building
import DocSchema.Proofs.Entity.Elements
import DocSchema.Proofs.Pipeline.Outcome
import DocSchema.Proofs.Json.Same
import DocSchema.Proofs.Pipeline.Rebuild
import DocSchema.Proofs.Inference.Places
import DocSchema.Proofs.Pipeline.Placement
import DocSchema.Proofs.Pipeline.Kinds
import DocSchema.Proofs.Json.Reading
import DocSchema.Proofs.Inference.Reference
import DocSchema.Proofs.Source.Identifiers
import DocSchema.Proofs.Source.Declarations
import DocSchema.Proofs.Source.Members
import DocSchema.Proofs.Source.Lines
import DocSchema.Proofs.Source.Spelling
import DocSchema.Proofs.Source.Comments
import DocSchema.Proofs.Files.Paths
import DocSchema.Proofs.Files.Writing
import DocSchema.Proofs.Files.Artifacts
import DocSchema.Proofs.Inference.Interrupted
import DocSchema.Proofs.Entity.Failing
import DocSchema.Proofs.Session.Registries
import DocSchema.Proofs.Session.Histories
import DocSchema.Proofs.Session.Loading
import DocSchema.Proofs.Numeric.Cells
import DocSchema.Proofs.Numeric.ReadBack
import DocSchema.Proofs.Numeric.PlainText
import DocSchema.Proofs.Numeric.Integers
import DocSchema.Proofs.Entity.Tables
import DocSchema.Proofs.Pipeline.Tables
import DocSchema.Proofs.Record.Basic
import DocSchema.Proofs.Record.Mirror
import DocSchema.Proofs.Record.Built
import DocSchema.Proofs.Record.Equality
import DocSchema.Proofs.Record.Removal
import DocSchema.Proofs.Entity.TableHistory
import DocSchema.Proofs.Json.Address
import DocSchema.Proofs.Session.Changes
import DocSchema.Proofs.Session.Locations
import DocSchema.Proofs.Session.Frozen
import DocSchema.Proofs.Inference.Begun
import DocSchema.Proofs.Session.Classes
import DocSchema.Proofs.Json.Order
import DocSchema.Proofs.Inference.Order
import DocSchema.Proofs.CommandLine.Generation
import DocSchema.Proofs.Schema.Stopped
import DocSchema.Proofs.Session.Rejected
import DocSchema.Proofs.Source.Tokens
import DocSchema.Proofs.Source.Mentions
import DocSchema.Proofs.Source.Pieces
import DocSchema.Proofs.Source.Closed
import DocSchema.Proofs.Text.Literals
import DocSchema.Proofs.Text.IdentifierCharacters
import DocSchema.Proofs.Source.Labels
import DocSchema.Proofs.Source.Legality
import DocSchema.Proofs.Session.Repeated
import DocSchema.Proofs.Entity.Foreign
import DocSchema.Proofs.Entity.Equality
import DocSchema.Proofs.Entity.OrderHistory
import DocSchema.Proofs.Entity.Rewording
import DocSchema.Proofs.Schema.Issues
import DocSchema.Proofs.Session.Regeneration
import DocSchema.Proofs.Json.Tokens
import DocSchema.Proofs.Entity.Construction
import DocSchema.Proofs.Session.FirstLoads
import DocSchema.Proofs.Json.Decoding
import DocSchema.Proofs.Session.Emitted
