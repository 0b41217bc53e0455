import AppRelease.Text.Blank
import AppRelease.Text.Cut
import AppRelease.Text.Utf8
import AppRelease.Text.Visible
import AppRelease.Text.Quoted
import AppRelease.Text.Emoji
import AppRelease.Text.Width
import AppRelease.Text.Ligature
import AppRelease.Text.Columns
import AppRelease.Dict
import AppRelease.Numeral
import AppRelease.Path
import AppRelease.Quantity
import AppRelease.Environment
import AppRelease.Base64
import AppRelease.Decimal.Binary64
import AppRelease.Decimal.Shortest
import AppRelease.Found
import AppRelease.Json.Value
import AppRelease.Json.Cursor
import AppRelease.Json.Numeral
import AppRelease.Json.Literal
import AppRelease.Json.Reader
import AppRelease.Document
import AppRelease.Yaml.Character
import AppRelease.Yaml.Reading
import AppRelease.Yaml.Scalar
import AppRelease.Yaml.Printer
import AppRelease.Yaml.Fault
import AppRelease.Yaml.Lexeme
import AppRelease.Yaml.Token
import AppRelease.Yaml.Event
import AppRelease.Yaml.Value
import AppRelease.Yaml.Shape
import AppRelease.FileTree
import AppRelease.Secrets.Content
import AppRelease.Cluster.Address
import AppRelease.Cluster.Fault
import AppRelease.Toml.Item
import AppRelease.Toml.Lexical
import AppRelease.Toml.Reader
import AppRelease.Toml.Shape
import AppRelease.Application.Template
import AppRelease.Application.Config
import AppRelease.Application.Build
import AppRelease.Error
import AppRelease.QuantityJson
import AppRelease.Variables
import AppRelease.Secrets.Bundle
import AppRelease.Overrides
import AppRelease.Project
import AppRelease.Catalog
import AppRelease.Manifest.Resource
import AppRelease.Manifest.Build
import AppRelease.Sink
import AppRelease.Assembly
import AppRelease.Release
import AppRelease.Table
import AppRelease.Display
import AppRelease.Cluster.Kubeconfig
import AppRelease.Cluster.Surroundings
import AppRelease.Cluster.Client
import AppRelease.Command.Usage
import AppRelease.Command.Arguments
import AppRelease.Command.Run
import AppRelease.Main
import AppRelease.Proofs.Laws
import AppRelease.Proofs.Base64
import AppRelease.Proofs.Numeral
import AppRelease.Proofs.Application
import AppRelease.Proofs.Configuration
import AppRelease.Proofs.Reporting
import AppRelease.Proofs.Quantities
import AppRelease.Proofs.Sizing
import AppRelease.Proofs.Conditions
import AppRelease.Proofs.Variables
import AppRelease.Proofs.Resolution
import AppRelease.Proofs.Declarations
import AppRelease.Proofs.Catalog
import AppRelease.Proofs.Files
import AppRelease.Proofs.Layout
import AppRelease.Proofs.Changes
import AppRelease.Proofs.Manifest
import AppRelease.Proofs.Assembly
import AppRelease.Proofs.Release
import AppRelease.Proofs.Readiness
import AppRelease.Proofs.Inputs
import AppRelease.Proofs.Separation
import AppRelease.Proofs.Wiring
import AppRelease.Proofs.Labels
import AppRelease.Proofs.Directories
import AppRelease.Proofs.Rendering
import AppRelease.Proofs.Order
import AppRelease.Proofs.Dotenv
import AppRelease.Proofs.Spelling
import AppRelease.Proofs.Formats
import AppRelease.Proofs.Assignments
import AppRelease.Proofs.Overrides
import AppRelease.Proofs.Overriding
import AppRelease.Proofs.Merging
import AppRelease.Proofs.Amounts
import AppRelease.Proofs.Reencoding
import AppRelease.Proofs.ByteOrder
import AppRelease.Proofs.Grammar
import AppRelease.Proofs.Members
import AppRelease.Proofs.Documents
import AppRelease.Proofs.Integers
import AppRelease.Proofs.Numbering
import AppRelease.Proofs.Applying
import AppRelease.Proofs.Secrecy
import AppRelease.Proofs.Images
import AppRelease.Proofs.Fallbacks
import AppRelease.Proofs.Unset
import AppRelease.Proofs.Keys
import AppRelease.Proofs.Shapes
import AppRelease.Proofs.Layering
