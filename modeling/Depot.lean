import Depot.Cli.Arguments
import Depot.Cli.Grammar
import Depot.Cli.Pages
import Depot.Cli.Progress
import Depot.Cli.Run
import Depot.Cli.Sending
import Depot.Cli.Told
import Depot.Collection.Basic
import Depot.Collection.OffsetStack
import Depot.Collection.Scan
import Depot.Dialogue
import Depot.Dictionary
import Depot.Disk.Basic
import Depot.Disk.Path
import Depot.Event.Basic
import Depot.Event.Bus
import Depot.Http.Api
import Depot.Http.Description
import Depot.Http.Error
import Depot.Http.Request
import Depot.Http.Response
import Depot.Json.Basic
import Depot.Json.Document
import Depot.Json.Fields
import Depot.Json.Printer
import Depot.Json.Token
import Depot.Login
import Depot.Main
import Depot.Peer.ChunkServer
import Depot.Peer.Destination
import Depot.Peer.DirectStorage
import Depot.Peer.Fault
import Depot.Peer.Listing
import Depot.Peer.Manifest
import Depot.Peer.Route
import Depot.Peer.Script
import Depot.Peer.Silence
import Depot.Peer.WholeStorage
import Depot.Proofs.Cli.Pages
import Depot.Proofs.Cli.Sending
import Depot.Proofs.Collection.Append
import Depot.Proofs.Collection.Discipline
import Depot.Proofs.Collection.Examined
import Depot.Proofs.Collection.Failure
import Depot.Proofs.Collection.Listing
import Depot.Proofs.Collection.Navigation
import Depot.Proofs.Collection.Observers
import Depot.Proofs.Collection.Page
import Depot.Proofs.Collection.Position
import Depot.Proofs.Collection.Requests
import Depot.Proofs.Collection.Unfiltered
import Depot.Proofs.Collection.Walk
import Depot.Proofs.Dialogue.Calm
import Depot.Proofs.Dialogue.Fault
import Depot.Proofs.Dialogue.Leads
import Depot.Proofs.Dialogue.Log
import Depot.Proofs.Dialogue.Pact
import Depot.Proofs.Dialogue.Run
import Depot.Proofs.Dictionary
import Depot.Proofs.Http.Api
import Depot.Proofs.Http.Request
import Depot.Proofs.Http.Response
import Depot.Proofs.Json.Literal
import Depot.Proofs.Json.RoundTrip
import Depot.Proofs.Settings.Layers
import Depot.Proofs.Text.Blank
import Depot.Proofs.Text.Lowercase
import Depot.Proofs.Text.Number
import Depot.Proofs.Text.Split
import Depot.Proofs.Text.Utf8
import Depot.Proofs.Upload.Agreement
import Depot.Proofs.Upload.Budget
import Depot.Proofs.Upload.Chronicle
import Depot.Proofs.Upload.Course
import Depot.Proofs.Upload.Granted
import Depot.Proofs.Upload.InOneRequest
import Depot.Proofs.Upload.Kept
import Depot.Proofs.Upload.Manifest
import Depot.Proofs.Upload.Mark
import Depot.Proofs.Upload.OpenFile
import Depot.Proofs.Upload.Outcome
import Depot.Proofs.Upload.Parts
import Depot.Proofs.Upload.Persistence
import Depot.Proofs.Upload.Progress
import Depot.Proofs.Upload.Reached
import Depot.Proofs.Upload.Source
import Depot.Proofs.Upload.Steady
import Depot.Proofs.Upload.Step
import Depot.Proofs.Upload.ThroughServer
import Depot.Proofs.Upload.ThroughStorage
import Depot.Proofs.Upload.Tiling
import Depot.Proofs.Upload.Transition
import Depot.Proofs.Upload.Whole
import Depot.Proofs.Url.Path
import Depot.Proofs.Url.Reference
import Depot.Proofs.Url.Slash
import Depot.Proofs.Xml.Event
import Depot.Record
import Depot.Settings.Basic
import Depot.Settings.Source
import Depot.Text.Blank
import Depot.Text.CaseTable
import Depot.Text.Lowercase
import Depot.Text.Number
import Depot.Text.Numeral
import Depot.Text.Printable
import Depot.Text.Quoted
import Depot.Text.Run
import Depot.Text.Split
import Depot.Text.Utf8
import Depot.Upload.Error
import Depot.Upload.File
import Depot.Upload.Grant
import Depot.Upload.Initiation
import Depot.Upload.Manifest
import Depot.Upload.Mime
import Depot.Upload.Session
import Depot.Upload.Source
import Depot.Upload.Step
import Depot.Upload.Uploader
import Depot.Url.Basic
import Depot.Url.DomainName
import Depot.Url.Error
import Depot.Url.Host
import Depot.Url.Percent
import Depot.Url.Punycode
import Depot.Url.Reference
import Depot.Xml.Event
