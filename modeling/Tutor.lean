import Tutor.Answer.Basic
import Tutor.Answer.Simplified
import Tutor.Ask.Service
import Tutor.Command.Program
import Tutor.Completion.OpenRouter
import Tutor.Disk.Basic
import Tutor.Fault
import Tutor.Main
import Tutor.Outcome
import Tutor.Prompt
import Tutor.Proofs.Ask.Asking
import Tutor.Proofs.Ask.History
import Tutor.Proofs.Disk.Place
import Tutor.Proofs.Disk.Files
import Tutor.Proofs.Http.Redirect
import Tutor.Proofs.Session.Log
import Tutor.Proofs.Speech.Assembly
import Tutor.Proofs.Speech.Confinement
import Tutor.Proofs.Speech.Fetch
import Tutor.Proofs.Speech.Report
import Tutor.Proofs.Speech.Segmentation
import Tutor.Server.Router
import Tutor.Server.Wire
import Tutor.Session.Json
import Tutor.Session.Store
import Tutor.Settings.Environment
import Tutor.Settings.Validity
import Tutor.Speech.Artifact
import Tutor.Speech.Language
import Tutor.Speech.Origin
import Tutor.Speech.Span
import Tutor.Timestamp
import Tutor.Url.Parse
import Tutor.World.Replay
import Tutor.Yaml.Decode
import Tutor.Proofs.Speech.Trail
import Tutor.Proofs.Answer.Simplified
import Tutor.Proofs.Ask.Consultation
import Tutor.Proofs.Ask.Independence
import Tutor.Proofs.Ask.Stages
import Tutor.Proofs.Ask.Scene
import Tutor.Proofs.Ask.Interleaving
import Tutor.Proofs.Ask.Isolation
import Tutor.Proofs.Json.Record
import Tutor.Proofs.Ask.Decoding
import Tutor.Proofs.Ask.Artifacts
import Tutor.Proofs.Ask.Extras
import Tutor.Proofs.Speech.Ending
import Tutor.Proofs.Speech.Recording
import Tutor.Proofs.Speech.Shelf
import Tutor.Proofs.Server.Clearing
import Tutor.Proofs.Server.Refusing
import Tutor.Proofs.Text.Utf8
import Tutor.Proofs.Url.Form
import Tutor.Proofs.Idna.Domain
import Tutor.Proofs.Url.Host
import Tutor.Proofs.Url.Parse
import Tutor.Proofs.Url.Query
import Tutor.Proofs.Speech.Pieces
import Tutor.Proofs.Speech.Contents
import Tutor.Proofs.Speech.Resolution
import Tutor.Proofs.Speech.Limit
import Tutor.Proofs.Json.Written
import Tutor.Proofs.Server.Serving
import Tutor.Proofs.Server.Audio
import Tutor.Proofs.Server.Calls
import Tutor.Proofs.Server.Sessions
import Tutor.Proofs.Speech.Runs
import Tutor.Proofs.Speech.Tiers
import Tutor.Proofs.Answer.Blocks
import Tutor.Proofs.Text.Letter
import Tutor.Proofs.Idna.Punycode
import Tutor.Proofs.Idna.Tables
import Tutor.Proofs.Idna.Ordinary
import Tutor.Proofs.Idna.Rereading
import Tutor.Proofs.Url.Address
import Tutor.Proofs.Url.Encoded
import Tutor.Proofs.Url.HostReading
import Tutor.Proofs.Url.Written
import Tutor.Proofs.Url.Reading
import Tutor.Proofs.Idna.Unreadable
import Tutor.Proofs.Speech.Addresses
import Tutor.Proofs.Answer.Layout
import Tutor.Proofs.Speech.Packing
import Tutor.Proofs.Speech.Recut
import Tutor.Proofs.Speech.Origin
import Tutor.Proofs.Completion.Ending
import Tutor.Proofs.Ask.Counting
import Tutor.Proofs.Command.Loading
import Tutor.Proofs.Json.Grammar
import Tutor.Proofs.Json.Accepted
import Tutor.Proofs.Ask.Wording
import Tutor.Proofs.Disk.Blocked
import Tutor.Proofs.Speech.Blocking
import Tutor.Proofs.Speech.Silence
import Tutor.Proofs.Settings.Hosts
