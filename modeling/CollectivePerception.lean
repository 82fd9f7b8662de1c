import CollectivePerception.Awareness
import CollectivePerception.Binary64
import CollectivePerception.Channel
import CollectivePerception.CommandLine.Arguments
import CollectivePerception.CommandLine.LogFormat
import CollectivePerception.CommandLine.Program
import CollectivePerception.CommandLine.Report
import CollectivePerception.Configuration.Document
import CollectivePerception.Configuration.Error
import CollectivePerception.Configuration.Rules
import CollectivePerception.Configuration.Scenario
import CollectivePerception.Configuration.Service
import CollectivePerception.Configuration.Storage
import CollectivePerception.Decimal
import CollectivePerception.Decimal.Reading
import CollectivePerception.Document
import CollectivePerception.Document.Format
import CollectivePerception.Document.Json
import CollectivePerception.Document.Schema
import CollectivePerception.Document.Toml.Format
import CollectivePerception.Document.Toml.Moment
import CollectivePerception.Document.Toml.Number
import CollectivePerception.Document.Toml.Reading
import CollectivePerception.Document.Toml.Text
import CollectivePerception.Document.Toml.Tree
import CollectivePerception.Document.Toml.Writing
import CollectivePerception.Encoding
import CollectivePerception.Environment
import CollectivePerception.Geometry
import CollectivePerception.LocalTracking
import CollectivePerception.Main
import CollectivePerception.Message
import CollectivePerception.Message.Codec
import CollectivePerception.Message.Document
import CollectivePerception.Named
import CollectivePerception.OrderedMap
import CollectivePerception.Redundancy
import CollectivePerception.Remote.History
import CollectivePerception.Remote.Tracking
import CollectivePerception.Scene
import CollectivePerception.Segmentation
import CollectivePerception.Selection
import CollectivePerception.Service.Generation
import CollectivePerception.Service.Reception
import CollectivePerception.Service.State
import CollectivePerception.Simulation
import CollectivePerception.Station
import CollectivePerception.Statistic
import CollectivePerception.Statistic.Document
import CollectivePerception.Storage.Files
import CollectivePerception.Storage.Tree
import CollectivePerception.Time
import CollectivePerception.Total
import CollectivePerception.Proofs.Binary64.Comparison
import CollectivePerception.Proofs.Binary64.Folding
import CollectivePerception.Proofs.Binary64.Maximum
import CollectivePerception.Proofs.Binary64.Nearest
import CollectivePerception.Proofs.Binary64.Packing
import CollectivePerception.Proofs.Binary64.Rounding
import CollectivePerception.Proofs.Configuration.Acceptance
import CollectivePerception.Proofs.Configuration.Description
import CollectivePerception.Proofs.Configuration.Omission
import CollectivePerception.Proofs.Configuration.RoundTrip
import CollectivePerception.Proofs.Configuration.Storable
import CollectivePerception.Proofs.Decimal.Shortest
import CollectivePerception.Proofs.Decimal.Text
import CollectivePerception.Proofs.Document.Format
import CollectivePerception.Proofs.Document.Table
import CollectivePerception.Proofs.Document.Toml.Key
import CollectivePerception.Proofs.Document.Toml.Line
import CollectivePerception.Proofs.Document.Toml.Number
import CollectivePerception.Proofs.Document.Toml.RoundTrip
import CollectivePerception.Proofs.Document.Toml.Tree
import CollectivePerception.Proofs.Document.Toml.Value
import CollectivePerception.Proofs.Encoding.Availability
import CollectivePerception.Proofs.Encoding.Domains
import CollectivePerception.Proofs.Environment.Lifetimes
import CollectivePerception.Proofs.Environment.Sightings
import CollectivePerception.Proofs.Geometry.Direction
import CollectivePerception.Proofs.LocalTracking.Reconciliation
import CollectivePerception.Proofs.LocalTracking.Synchronization
import CollectivePerception.Proofs.Message.Acceptance
import CollectivePerception.Proofs.Message.Domain
import CollectivePerception.Proofs.Message.Size
import CollectivePerception.Proofs.OrderedMap.Difference
import CollectivePerception.Proofs.OrderedMap.Entries
import CollectivePerception.Proofs.Redundancy.Chain
import CollectivePerception.Proofs.Redundancy.Frequency
import CollectivePerception.Proofs.Remote.Backing
import CollectivePerception.Proofs.Remote.Currency
import CollectivePerception.Proofs.Remote.History
import CollectivePerception.Proofs.Remote.Log
import CollectivePerception.Proofs.Remote.Newest
import CollectivePerception.Proofs.Remote.Reconciliation
import CollectivePerception.Proofs.Remote.Retention
import CollectivePerception.Proofs.Remote.Room
import CollectivePerception.Proofs.Remote.Tracking
import CollectivePerception.Proofs.Requirement
import CollectivePerception.Proofs.Scene.Lifetimes
import CollectivePerception.Proofs.Scene.Reuse
import CollectivePerception.Proofs.Segmentation.Bounds
import CollectivePerception.Proofs.Segmentation.Capacity
import CollectivePerception.Proofs.Segmentation.Conservation
import CollectivePerception.Proofs.Segmentation.Description
import CollectivePerception.Proofs.Segmentation.Filling
import CollectivePerception.Proofs.Segmentation.Layout
import CollectivePerception.Proofs.Segmentation.Messages
import CollectivePerception.Proofs.Segmentation.Numbering
import CollectivePerception.Proofs.Segmentation.Order
import CollectivePerception.Proofs.Segmentation.Oversize
import CollectivePerception.Proofs.Segmentation.Place
import CollectivePerception.Proofs.Segmentation.Priority
import CollectivePerception.Proofs.Selection.Candidates
import CollectivePerception.Proofs.Selection.Drift
import CollectivePerception.Proofs.Service.Acceptance
import CollectivePerception.Proofs.Service.Accounting
import CollectivePerception.Proofs.Service.Creation
import CollectivePerception.Proofs.Service.Cycle
import CollectivePerception.Proofs.Service.Description
import CollectivePerception.Proofs.Service.Failure
import CollectivePerception.Proofs.Service.Measurement
import CollectivePerception.Proofs.Service.Picture
import CollectivePerception.Proofs.Service.Prediction
import CollectivePerception.Proofs.Service.Reception
import CollectivePerception.Proofs.Service.Reporting
import CollectivePerception.Proofs.Service.Run
import CollectivePerception.Proofs.Service.Segments
import CollectivePerception.Proofs.Service.Spacing
import CollectivePerception.Proofs.Service.Traffic
import CollectivePerception.Proofs.Service.Transmission
import CollectivePerception.Proofs.Simulation.Accounting
import CollectivePerception.Proofs.Simulation.Channel
import CollectivePerception.Proofs.Simulation.Ending
import CollectivePerception.Proofs.Simulation.Load
import CollectivePerception.Proofs.Simulation.Motion
import CollectivePerception.Proofs.Simulation.Radar
import CollectivePerception.Proofs.Simulation.Run
import CollectivePerception.Proofs.Simulation.Sending
import CollectivePerception.Proofs.Storage.Writing
import CollectivePerception.Proofs.Time.Reconstruction
