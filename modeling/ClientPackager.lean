import ClientPackager.Archive.EntryName
import ClientPackager.Archive.Gzip
import ClientPackager.Archive.Header
import ClientPackager.Archive.Stream
import ClientPackager.Catalog
import ClientPackager.Catalog.Directory
import ClientPackager.Client.Declarations
import ClientPackager.Client.Identifier
import ClientPackager.Client.Registry
import ClientPackager.Client.Script
import ClientPackager.Client.TypeText
import ClientPackager.Command.Arguments
import ClientPackager.Command.Failure
import ClientPackager.Command.Invocation
import ClientPackager.Command.Run
import ClientPackager.Command.Usage
import ClientPackager.Config
import ClientPackager.Contract
import ClientPackager.Contract.Encoding
import ClientPackager.Contract.OfReflection
import ClientPackager.Decimal.Double
import ClientPackager.Decimal.Shortest
import ClientPackager.Decimal.Spelling
import ClientPackager.Descriptor
import ClientPackager.Descriptor.Encoding
import ClientPackager.Disk.Basic
import ClientPackager.Disk.Export
import ClientPackager.Disk.Path
import ClientPackager.Disk.Store
import ClientPackager.Fault
import ClientPackager.Files.Fault
import ClientPackager.Files.FilePath
import ClientPackager.Files.FileTree
import ClientPackager.Json.Basic
import ClientPackager.Json.Decode
import ClientPackager.Json.Number
import ClientPackager.Json.Printer
import ClientPackager.Json.Reader
import ClientPackager.Keyed
import ClientPackager.Main
import ClientPackager.Mode
import ClientPackager.Package.Bundle
import ClientPackager.Package.Dependencies
import ClientPackager.Package.Manifest
import ClientPackager.PackageName
import ClientPackager.Reflection
import ClientPackager.Reflection.Encoding
import ClientPackager.Report.Generation
import ClientPackager.Report.Inspection
import ClientPackager.Report.Style
import ClientPackager.Server.Basic
import ClientPackager.Server.Http
import ClientPackager.Server.Listing
import ClientPackager.SocketAddress
import ClientPackager.Template.Basic
import ClientPackager.Template.BuiltIn
import ClientPackager.Template.Library
import ClientPackager.Template.Reader
import ClientPackager.Template.Render
import ClientPackager.Template.Source
import ClientPackager.Template.Tag
import ClientPackager.Text.Alphanumeric
import ClientPackager.Text.Basic
import ClientPackager.Text.Split
import ClientPackager.Toml.Reader
import ClientPackager.Toml.Scalar
import ClientPackager.Toml.Table
import ClientPackager.TypeExpr.Basic
import ClientPackager.TypeExpr.Reader
import ClientPackager.TypeExpr.Resolve
import ClientPackager.TypeExpr.Token
import ClientPackager.Version
import ClientPackager.Proofs.Archive.EntryName
import ClientPackager.Proofs.Archive.FileNames
import ClientPackager.Proofs.Archive.Heading
import ClientPackager.Proofs.Archive.Listing
import ClientPackager.Proofs.Archive.Lossless
import ClientPackager.Proofs.Archive.Package
import ClientPackager.Proofs.Archive.Reader
import ClientPackager.Proofs.Archive.StoredName
import ClientPackager.Proofs.Catalog.History
import ClientPackager.Proofs.Catalog.Loading
import ClientPackager.Proofs.Catalog.Offers
import ClientPackager.Proofs.Client.Accepted
import ClientPackager.Proofs.Client.Agreement
import ClientPackager.Proofs.Client.Announced
import ClientPackager.Proofs.Client.Bindings
import ClientPackager.Proofs.Client.Block
import ClientPackager.Proofs.Client.Comment
import ClientPackager.Proofs.Client.Contained
import ClientPackager.Proofs.Client.DeclarationText
import ClientPackager.Proofs.Client.Faithful
import ClientPackager.Proofs.Client.FileSpans
import ClientPackager.Proofs.Client.Forwarding
import ClientPackager.Proofs.Client.Identifier
import ClientPackager.Proofs.Client.Interface
import ClientPackager.Proofs.Client.NameClash
import ClientPackager.Proofs.Client.Optional
import ClientPackager.Proofs.Client.ParameterNames
import ClientPackager.Proofs.Client.ScriptText
import ClientPackager.Proofs.Client.Span
import ClientPackager.Proofs.Client.TypeMeaning
import ClientPackager.Proofs.Client.TypeReading
import ClientPackager.Proofs.Client.UsableName
import ClientPackager.Proofs.Command.Agreement
import ClientPackager.Proofs.Command.Generate
import ClientPackager.Proofs.Command.Spared
import ClientPackager.Proofs.Contract.Conditions
import ClientPackager.Proofs.Contract.Encoding
import ClientPackager.Proofs.Contract.Introspection
import ClientPackager.Proofs.Contract.MethodOrder
import ClientPackager.Proofs.Contract.RecordOrder
import ClientPackager.Proofs.Disk.Access
import ClientPackager.Proofs.Disk.Collecting
import ClientPackager.Proofs.Disk.Delivery
import ClientPackager.Proofs.Disk.Directories
import ClientPackager.Proofs.Disk.Exportable
import ClientPackager.Proofs.Disk.Failing
import ClientPackager.Proofs.Disk.Lead
import ClientPackager.Proofs.Disk.Making
import ClientPackager.Proofs.Disk.Place
import ClientPackager.Proofs.Disk.Running
import ClientPackager.Proofs.Disk.Saving
import ClientPackager.Proofs.Disk.Trail
import ClientPackager.Proofs.Disk.Write
import ClientPackager.Proofs.Files.Apart
import ClientPackager.Proofs.Files.Base
import ClientPackager.Proofs.Files.Confined
import ClientPackager.Proofs.Files.Containment
import ClientPackager.Proofs.Files.FilePath
import ClientPackager.Proofs.Files.Normalised
import ClientPackager.Proofs.Files.OrderedMap
import ClientPackager.Proofs.Files.PathText
import ClientPackager.Proofs.Json.Fields
import ClientPackager.Proofs.Json.Layout
import ClientPackager.Proofs.Json.Printed
import ClientPackager.Proofs.Json.Quoted
import ClientPackager.Proofs.Keyed.Insertions
import ClientPackager.Proofs.Lookup
import ClientPackager.Proofs.Outcome
import ClientPackager.Proofs.Package.Contents
import ClientPackager.Proofs.Package.Manifest
import ClientPackager.Proofs.Package.Name
import ClientPackager.Proofs.Package.NameGrammar
import ClientPackager.Proofs.Package.Placement
import ClientPackager.Proofs.Registry.Calls
import ClientPackager.Proofs.Registry.Names
import ClientPackager.Proofs.Registry.Naming
import ClientPackager.Proofs.Registry.Preorder
import ClientPackager.Proofs.Registry.Reachable
import ClientPackager.Proofs.Registry.RecordNames
import ClientPackager.Proofs.Registry.Run
import ClientPackager.Proofs.Registry.Table
import ClientPackager.Proofs.Registry.Visit
import ClientPackager.Proofs.Server.Download
import ClientPackager.Proofs.Server.Export
import ClientPackager.Proofs.Template.BuiltIn
import ClientPackager.Proofs.Template.Nesting
import ClientPackager.Proofs.Template.Source
import ClientPackager.Proofs.Template.Tag
import ClientPackager.Proofs.Template.Yields
import ClientPackager.Proofs.Text.IdentifierCharacters
import ClientPackager.Proofs.Text.Pieces
import ClientPackager.Proofs.TypeExpr.Display
import ClientPackager.Proofs.TypeExpr.Grammar
import ClientPackager.Proofs.TypeExpr.Identity
import ClientPackager.Proofs.TypeExpr.Lookahead
import ClientPackager.Proofs.TypeExpr.Misfit
import ClientPackager.Proofs.TypeExpr.Reading
import ClientPackager.Proofs.TypeExpr.Resolving
import ClientPackager.Proofs.TypeExpr.Scanning
import ClientPackager.Proofs.TypeExpr.Spelling
import ClientPackager.Proofs.TypeExpr.Written
