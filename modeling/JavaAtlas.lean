import JavaAtlas.Catalog.Core
import JavaAtlas.Class.Basic
import JavaAtlas.Decimal.Shortest
import JavaAtlas.Declaration
import JavaAtlas.Encoding
import JavaAtlas.Encoding.Charset
import JavaAtlas.Encoding.Chinese
import JavaAtlas.Encoding.Console
import JavaAtlas.Encoding.Iso
import JavaAtlas.Encoding.Japanese
import JavaAtlas.Encoding.Korean
import JavaAtlas.Encoding.Mac
import JavaAtlas.Encoding.Mainframe
import JavaAtlas.Encoding.Name
import JavaAtlas.Encoding.Page
import JavaAtlas.Encoding.Plane
import JavaAtlas.Encoding.Regional
import JavaAtlas.Encoding.Step
import JavaAtlas.Encoding.Taiwanese
import JavaAtlas.Encoding.Utf
import JavaAtlas.Encoding.Utf7
import JavaAtlas.Encoding.Windows
import JavaAtlas.Entry
import JavaAtlas.Fault
import JavaAtlas.File.Path
import JavaAtlas.File.Sources
import JavaAtlas.File.Tree
import JavaAtlas.Generics
import JavaAtlas.Grammar
import JavaAtlas.Hierarchy
import JavaAtlas.Java.Classic.Expression
import JavaAtlas.Java.Classic.Lexer
import JavaAtlas.Java.Classic.Phrase
import JavaAtlas.Java.Classic.Statement
import JavaAtlas.Java.Classic.Unit
import JavaAtlas.Java.Members
import JavaAtlas.Java.Modern.Expression
import JavaAtlas.Java.Modern.Lexer
import JavaAtlas.Java.Modern.Literal
import JavaAtlas.Java.Modern.Member
import JavaAtlas.Java.Modern.Module
import JavaAtlas.Java.Modern.Parameter
import JavaAtlas.Java.Modern.Phrase
import JavaAtlas.Java.Modern.Statement
import JavaAtlas.Java.Modern.Switch
import JavaAtlas.Java.Modern.Unit
import JavaAtlas.Java.Modern.Word
import JavaAtlas.Java.Reader
import JavaAtlas.Java.Token
import JavaAtlas.Listing.Basic
import JavaAtlas.Listing.Header
import JavaAtlas.Listing.Member
import JavaAtlas.Members
import JavaAtlas.Modifier
import JavaAtlas.Name
import JavaAtlas.Notice
import JavaAtlas.ParseError
import JavaAtlas.Proofs.Capture
import JavaAtlas.Proofs.Copies
import JavaAtlas.Proofs.History
import JavaAtlas.Proofs.Lookup
import JavaAtlas.Proofs.Names
import JavaAtlas.Proofs.Outside
import JavaAtlas.Proofs.Places
import JavaAtlas.Proofs.Reach
import JavaAtlas.Proofs.Reachable
import JavaAtlas.Proofs.Renumbering
import JavaAtlas.Proofs.Restore
import JavaAtlas.Proofs.Subtyping
import JavaAtlas.Proofs.View
import JavaAtlas.Proofs.Walk
import JavaAtlas.Property
import JavaAtlas.Query
import JavaAtlas.Registry
import JavaAtlas.Resolution
import JavaAtlas.Resolver
import JavaAtlas.Session
import JavaAtlas.Settings
import JavaAtlas.Snapshot.Basic
import JavaAtlas.Snapshot.Datum
import JavaAtlas.Snapshot.Stored
import JavaAtlas.SourceUnit
import JavaAtlas.Text.Blank
import JavaAtlas.Text.Case
import JavaAtlas.Text.Category
import JavaAtlas.Text.Identifier
import JavaAtlas.Text.Printable
import JavaAtlas.Text.Quoted
import JavaAtlas.Text.Ranges
import JavaAtlas.Toml.Document
import JavaAtlas.Toml.Scalar
import JavaAtlas.Toml.Text
import JavaAtlas.TypeRef
import JavaAtlas.Value
import JavaAtlas.Workspace
import JavaAtlas.Proofs.Precedence
import JavaAtlas.Proofs.Dangling
import JavaAtlas.Proofs.Superclasses
import JavaAtlas.Proofs.Interfaces
import JavaAtlas.Proofs.Naming
import JavaAtlas.Proofs.Order
import JavaAtlas.Proofs.Scoping
import JavaAtlas.Proofs.Calls
import JavaAtlas.Proofs.Log
import JavaAtlas.Proofs.Outcome
import JavaAtlas.Proofs.WellFormed
import JavaAtlas.Proofs.ClassicWellFormed
import JavaAtlas.Proofs.ModernWellFormed
import JavaAtlas.Proofs.Layout
import JavaAtlas.Proofs.Lexing
import JavaAtlas.Proofs.Reads
import JavaAtlas.Proofs.Printing
import JavaAtlas.Proofs.Printed
import JavaAtlas.Proofs.ClassicReads
import JavaAtlas.Proofs.ModernReads
import JavaAtlas.Proofs.ModernUnits
import JavaAtlas.Proofs.RoundTrip
import JavaAtlas.Proofs.Headers
import JavaAtlas.Proofs.Agreement
import JavaAtlas.Proofs.ListingPrinting
import JavaAtlas.Proofs.ListingText
import JavaAtlas.Proofs.ListingNames
import JavaAtlas.Proofs.ListingClauses
import JavaAtlas.Proofs.ListingHeader
import JavaAtlas.Proofs.ListingMembers
import JavaAtlas.Proofs.ListingReading
import JavaAtlas.Proofs.ListingConstructors
import JavaAtlas.Proofs.Shadowing
import JavaAtlas.Proofs.Paths
import JavaAtlas.Proofs.Files
import JavaAtlas.Proofs.Loading
import JavaAtlas.Proofs.Saving
import JavaAtlas.Proofs.Assembly
import JavaAtlas.Proofs.Sources
import JavaAtlas.Proofs.Decoding
import JavaAtlas.Proofs.SourceTrees
import JavaAtlas.Proofs.Configuration
import JavaAtlas.Proofs.Properties
import JavaAtlas.Proofs.Signatures
import JavaAtlas.Proofs.BinaryNames
import JavaAtlas.Proofs.ListedClasses
import JavaAtlas.Proofs.Descent
import JavaAtlas.Proofs.Derived
import JavaAtlas.Proofs.TypeArguments
import JavaAtlas.Proofs.DisplayedTypes
import JavaAtlas.Proofs.Discovery
import JavaAtlas.Proofs.OwnClasses
