import QuizClient.Text.Blank
import QuizClient.Text.Lines
import QuizClient.Text.Numeral
import QuizClient.Decimal.Shortest
import QuizClient.Json.Number
import QuizClient.Json.Token
import QuizClient.Json.Token.Lemmas
import QuizClient.Json.Draft
import QuizClient.Json.Fault
import QuizClient.Dictionary
import QuizClient.Json.Value
import QuizClient.Json.Codec
import QuizClient.Json.Record
import QuizClient.Time.Alarm
import QuizClient.Game.Snapshot
import QuizClient.Envelope
import QuizClient.Settings.Document
import QuizClient.Client.Countdown
import QuizClient.Client.BuzzWindow
import QuizClient.Client.ScoreChanges
import QuizClient.Client.Action
import QuizClient.Client.Permissions
import QuizClient.Client.Advisory
import QuizClient.Client.Basic
import QuizClient.Client.View
import QuizClient.Client.Event
import QuizClient.Console.Session
import QuizClient.Main
import QuizClient.Proofs.Operations
import QuizClient.Proofs.Timelines
import QuizClient.Proofs.Countdown
import QuizClient.Proofs.Pending
import QuizClient.Proofs.Window
import QuizClient.Proofs.Ownership
import QuizClient.Proofs.FinalRound
import QuizClient.Proofs.Buzzing
import QuizClient.Proofs.Simultaneous
import QuizClient.Proofs.Renewal
import QuizClient.Proofs.Endings
import QuizClient.Proofs.Resting
import QuizClient.Proofs.Halting
import QuizClient.Proofs.Replacement
import QuizClient.Proofs.Pausing
import QuizClient.Proofs.Written
import QuizClient.Proofs.Codecs
import QuizClient.Proofs.Wire
import QuizClient.Proofs.Lines
import QuizClient.Proofs.Outbound
import QuizClient.Proofs.Delays
import QuizClient.Proofs.Clock
import QuizClient.Proofs.Punctual
import QuizClient.Proofs.Classification
import QuizClient.Proofs.Frames
import QuizClient.Proofs.Visibility
import QuizClient.Proofs.Snapshots
import QuizClient.Proofs.ScoreHistory
import QuizClient.Proofs.Acceptance
import QuizClient.Proofs.Presence
import QuizClient.Proofs.Timing
import QuizClient.Proofs.Gating
import QuizClient.Proofs.Repetition
import QuizClient.Proofs.Violations
import QuizClient.Proofs.Messages
import QuizClient.Proofs.Reports
import QuizClient.Proofs.Explanation
import QuizClient.Proofs.Leaving
import QuizClient.Proofs.Opening
import QuizClient.Proofs.Differences
import QuizClient.Proofs.Commands
import QuizClient.Proofs.Reach
import QuizClient.Proofs.Places
import QuizClient.Proofs.Absence
import QuizClient.Proofs.Lexing
import QuizClient.Proofs.Grammar
import QuizClient.Proofs.Keeping
import QuizClient.Proofs.Rearrangement
import QuizClient.Proofs.ReadingTime
import QuizClient.Proofs.Counting
import QuizClient.Proofs.Streams
import QuizClient.Proofs.Components
import QuizClient.Proofs.Documents
import QuizClient.Proofs.Starting
import QuizClient.Proofs.WholeSeconds
