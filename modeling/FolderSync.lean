import FolderSync.Bytes
import FolderSync.Sha1
import FolderSync.ContentHash
import FolderSync.Sink
import FolderSync.FileName
import FolderSync.Filter
import FolderSync.NameMap
import FolderSync.Text.Classes
import FolderSync.Text.Quoted
import FolderSync.Text.Fields
import FolderSync.Text.Blank
import FolderSync.Text.Mapping
import FolderSync.Text.Composition
import FolderSync.Text.Shaping
import FolderSync.Url.Percent
import FolderSync.Url.Punycode
import FolderSync.Url.Domain
import FolderSync.Url.Host
import FolderSync.Url.Basic
import FolderSync.Url.Reader
import FolderSync.Descriptor
import FolderSync.Manifest
import FolderSync.Publish
import FolderSync.Plan
import FolderSync.Network.Status
import FolderSync.Network.Address
import FolderSync.Network.Basic
import FolderSync.Network.Client
import FolderSync.Network.Message
import FolderSync.Config
import FolderSync.Error
import FolderSync.Fetch
import FolderSync.Install
import FolderSync.Engine
import FolderSync.Resolution
import FolderSync.CommandLine.Arguments
import FolderSync.CommandLine.Paint
import FolderSync.CommandLine.Run
import FolderSync.Disk.Cause
import FolderSync.Disk.Path
import FolderSync.Disk.Basic
import FolderSync.Disk.Resolve
import FolderSync.Volume
import FolderSync.Disk.Arrange
import FolderSync.Staging
import FolderSync.Inventory
import FolderSync.Decimal.Binary64
import FolderSync.Decimal.Shortest
import FolderSync.Decimal.Style
import FolderSync.Decoding
import FolderSync.Json.Basic
import FolderSync.Json.Printer
import FolderSync.Json.Reader
import FolderSync.Toml.Basic
import FolderSync.Toml.Scalar
import FolderSync.Toml.Document
import FolderSync.Toml.Reader
import FolderSync.Main
import FolderSync.Proofs.Results
import FolderSync.Proofs.Lookup
import FolderSync.Proofs.Text.Encoding
import FolderSync.Proofs.Hashing
import FolderSync.Proofs.Hashing.Forwarding
import FolderSync.Proofs.Hashing.Copying
import FolderSync.Proofs.Hashing.Delivery
import FolderSync.Proofs.Hashing.Canonical
import FolderSync.Proofs.Filter
import FolderSync.Proofs.NameMap
import FolderSync.Proofs.Plan
import FolderSync.Proofs.Json.Number
import FolderSync.Proofs.Json.Text
import FolderSync.Proofs.Json.Value
import FolderSync.Proofs.Url.Domain
import FolderSync.Proofs.Url.Reading
import FolderSync.Proofs.Url.Path
import FolderSync.Proofs.Url.Spelling
import FolderSync.Proofs.Url.Endpoint
import FolderSync.Proofs.Network.Requests
import FolderSync.Proofs.Network.Replies
import FolderSync.Proofs.Disk.Path
import FolderSync.Proofs.Disk.Tree
import FolderSync.Proofs.Disk.Passage
import FolderSync.Proofs.Disk.Direct
import FolderSync.Proofs.Volume
import FolderSync.Proofs.Disk.Descent
import FolderSync.Proofs.Disk.Folder
import FolderSync.Proofs.Disk.Merge
import FolderSync.Proofs.Directory.Progress
import FolderSync.Proofs.Directory.Making
import FolderSync.Proofs.Directory.Filling
import FolderSync.Proofs.Directory.Remaking
import FolderSync.Proofs.Directory.Tokens
import FolderSync.Proofs.Directory.Staging
import FolderSync.Proofs.Directory.Install
import FolderSync.Proofs.Directory.Landing
import FolderSync.Proofs.Directory.Independence
import FolderSync.Proofs.Inventory
import FolderSync.Proofs.Inventory.Contents
import FolderSync.Proofs.FileName
import FolderSync.Proofs.Engine.Run
import FolderSync.Proofs.Engine.Placement
import FolderSync.Proofs.Engine.Accounting
import FolderSync.Proofs.Engine.Confinement
import FolderSync.Proofs.Engine.Interruption
import FolderSync.Proofs.Engine.Convergence
import FolderSync.Proofs.Engine.History
import FolderSync.Proofs.Engine.Aliasing
import FolderSync.Proofs.Engine.Visibility
import FolderSync.Proofs.Engine.Order
import FolderSync.Proofs.Directory.Crossing
import FolderSync.Proofs.Directory.Verdict
import FolderSync.Proofs.Json.Reading
import FolderSync.Proofs.Manifest.Format
import FolderSync.Proofs.Manifest.Publishing
import FolderSync.Proofs.Manifest.Retrieval
import FolderSync.Proofs.Plan.Partition
import FolderSync.Proofs.Plan.Application
import FolderSync.Proofs.Plan.Printing
import FolderSync.Proofs.Directory.Fitting
import FolderSync.Proofs.Directory.Workbench
import FolderSync.Proofs.Directory.Isolation
import FolderSync.Proofs.Toml.Keys
import FolderSync.Proofs.Config
import FolderSync.Proofs.Resolution
