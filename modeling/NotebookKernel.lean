import NotebookKernel.CommandLine
import NotebookKernel.Kernel.Serving
import NotebookKernel.Proofs.Bridge.RoundTrip
import NotebookKernel.Rehearsal
import NotebookKernel.Proofs.Bridge.Conversation
import NotebookKernel.Proofs.Bridge.Termination
import NotebookKernel.Proofs.Dispatcher.History
import NotebookKernel.Proofs.Dispatcher.Gathering
import NotebookKernel.Proofs.Dispatcher.Coupling
import NotebookKernel.Proofs.Kernel.CellMessages
import NotebookKernel.Proofs.Kernel.Course
import NotebookKernel.Proofs.Kernel.Announcement
import NotebookKernel.Proofs.Kernel.Use
import NotebookKernel.Proofs.Kernel.Interruption
import NotebookKernel.Proofs.Kernel.Answers
import NotebookKernel.Proofs.Kernel.Replies
import NotebookKernel.Proofs.Kernel.Counting
import NotebookKernel.Proofs.Json.Quote
import NotebookKernel.Proofs.Text.Utf8
import NotebookKernel.Proofs.Text.Lines
import NotebookKernel.Proofs.Text.Blank
import NotebookKernel.Proofs.Cell.Classification
import NotebookKernel.Proofs.Json.Compact
import NotebookKernel.Proofs.Wire.RequestLine
import NotebookKernel.Proofs.Wire.RequestStream
import NotebookKernel.Proofs.Wire.ResponseLine
import NotebookKernel.Proofs.Dispatcher.Requests
import NotebookKernel.Proofs.Dispatcher.Calls
import NotebookKernel.Proofs.Dispatcher.Latch
import NotebookKernel.Proofs.Dispatcher.Reason
import NotebookKernel.Proofs.Dispatcher.Processes
import NotebookKernel.Proofs.Dispatcher.Turns
import NotebookKernel.Proofs.Dispatcher.Independence
import NotebookKernel.Proofs.Kernel.Asides
import NotebookKernel.Proofs.Console.Lines
import NotebookKernel.Proofs.Console.Transcript
import NotebookKernel.Proofs.Json.Digits
import NotebookKernel.Proofs.Json.Pretty
import NotebookKernel.Proofs.Json.Locality
import NotebookKernel.Proofs.Json.Canonical
import NotebookKernel.Proofs.Json.Reading
import NotebookKernel.Proofs.Json.Written
import NotebookKernel.Proofs.Json.Record
import NotebookKernel.Proofs.Wire.ResponseShape
import NotebookKernel.Proofs.Bridge.CutShort
import NotebookKernel.Proofs.Host.Files
import NotebookKernel.Proofs.Settings.Persistence
import NotebookKernel.Proofs.CommandLine.SettingsCommand
import NotebookKernel.Proofs.Cell.TrailingBlanks
import NotebookKernel.Proofs.Text.Case
import NotebookKernel.Proofs.Cell.ChannelName
import NotebookKernel.Proofs.Dispatcher.Echo
import NotebookKernel.Proofs.Json.Grammar
import NotebookKernel.Proofs.Json.Skimming
import NotebookKernel.Proofs.Json.Spelling
import NotebookKernel.Proofs.Json.Agreement
import NotebookKernel.Proofs.Json.Lists
import NotebookKernel.Proofs.Json.Members
import NotebookKernel.Proofs.Json.Choice
import NotebookKernel.Proofs.Json.RecordText
import NotebookKernel.Proofs.Settings.Fields
import NotebookKernel.Proofs.Settings.Loading
import NotebookKernel.Proofs.Session.JoinedDependencies
import NotebookKernel.Proofs.Text.Control
import NotebookKernel.Proofs.Json.Message
import NotebookKernel.Proofs.Dispatcher.Failures
import NotebookKernel.Proofs.Bridge.Rejection
import NotebookKernel.Proofs.Console.Complaint
