import Overlay.Address
import Overlay.Address.Short
import Overlay.Bytes
import Overlay.CommandLine
import Overlay.CommandLine.Help
import Overlay.CommandLine.Usage
import Overlay.Disk
import Overlay.Failure
import Overlay.Frame
import Overlay.Frame.Decoder
import Overlay.Frame.Front
import Overlay.Frame.Reader
import Overlay.Frame.Sink
import Overlay.Host
import Overlay.IoFault
import Overlay.Json.Fault
import Overlay.Json.Lexical
import Overlay.Json.Numeral
import Overlay.Json.Skip
import Overlay.Json.Written
import Overlay.Lifecycle
import Overlay.LittleEndian
import Overlay.Log
import Overlay.Log.Filter
import Overlay.Mailbox
import Overlay.Main
import Overlay.NameExchange
import Overlay.Network
import Overlay.Node
import Overlay.Node.Connection
import Overlay.Node.Run
import Overlay.Number.Shortest
import Overlay.Pattern
import Overlay.Pattern.Bracket
import Overlay.Pattern.CharSet
import Overlay.Pattern.Cursor
import Overlay.Pattern.Escape
import Overlay.Pattern.Fault
import Overlay.Pattern.Meaning
import Overlay.Pattern.Opening
import Overlay.Pattern.Reading
import Overlay.Pattern.Shape
import Overlay.Pattern.Tree
import Overlay.Program
import Overlay.Proofs.Moves
import Overlay.Proofs.OneShot
import Overlay.Proofs.Segmentation
import Overlay.Proofs.View
import Overlay.Role
import Overlay.Roster
import Overlay.Service
import Overlay.Session
import Overlay.Settings
import Overlay.Settings.Document
import Overlay.Settings.Loading
import Overlay.Settings.Saving
import Overlay.Subscribers
import Overlay.Switchboard
import Overlay.Text.Cut
import Overlay.Text.Decimal
import Overlay.Text.Letter
import Overlay.Text.Lossy
import Overlay.Text.Moment
import Overlay.Text.Plain
import Overlay.Text.Quoted
import Overlay.Text.Ranges
import Overlay.Text.Visible
import Overlay.Writer
import Overlay.Proofs.Passage
import Overlay.Proofs.Places
import Overlay.Proofs.Balance
import Overlay.Proofs.Reading
import Overlay.Proofs.Life
import Overlay.Proofs.Handings
import Overlay.Proofs.Courses
import Overlay.Proofs.Comings
import Overlay.Proofs.Announcements
import Overlay.Proofs.Calendar
import Overlay.Proofs.Outboxes
import Overlay.Proofs.Outlook
import Overlay.Proofs.Dealings
import Overlay.Proofs.Pace
import Overlay.Proofs.Lines
import Overlay.Proofs.Delivery
import Overlay.Proofs.Claimants
import Overlay.Proofs.HangUps
import Overlay.Proofs.Interleaving
import Overlay.Proofs.Conservation
import Overlay.Proofs.Cutoff
import Overlay.Proofs.Exchange
import Overlay.Proofs.Renumbering
import Overlay.Proofs.Mirror
import Overlay.Proofs.Erasure
import Overlay.Proofs.Encodings
import Overlay.Proofs.Decoding
import Overlay.Proofs.Declarations
import Overlay.Proofs.Naming
import Overlay.Proofs.Detachment
import Overlay.Proofs.WrittenForm
import Overlay.Proofs.Storage
import Overlay.Proofs.SavedSettings
import Overlay.Proofs.Interruptions
import Overlay.Proofs.Backlog
import Overlay.Proofs.Feeding
import Overlay.Proofs.Departures
import Overlay.Proofs.Books
import Overlay.Proofs.WriterRuns
import Overlay.Proofs.Layers
import Overlay.Proofs.Spelling
import Overlay.Proofs.Numerals
import Overlay.Proofs.Values
import Overlay.Proofs.Objects
import Overlay.Proofs.FileMeaning
import Overlay.Proofs.ByteOrder
import Overlay.Proofs.LookUps
import Overlay.Proofs.BindTargets
