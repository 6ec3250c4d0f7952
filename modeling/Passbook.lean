import Passbook.Http.Serve
import Passbook.Mail.Relay
import Passbook.Proofs.Program.Contract
import Passbook.Rehearsal
import Passbook.Settings
import Passbook.Proofs.Transaction.Course
import Passbook.Proofs.Transaction.Contract
import Passbook.Proofs.Http.CommitReport
import Passbook.Proofs.Transaction.Attempts
import Passbook.Proofs.Transaction.Outcome
import Passbook.Proofs.Database.Record
import Passbook.Proofs.Database.Execute
import Passbook.Proofs.Database.Draft
import Passbook.Proofs.Database.Steady
import Passbook.Proofs.Concurrency.World
import Passbook.Proofs.Concurrency.Session
import Passbook.Proofs.Concurrency.Serial
import Passbook.Proofs.Transaction.MoveMoney
import Passbook.Proofs.Concurrency.Transfers
import Passbook.Proofs.Concurrency.Stages
import Passbook.Proofs.Transaction.ConfirmEmail
import Passbook.Proofs.Concurrency.Confirmations
import Passbook.Proofs.Queue.Registrations
import Passbook.Proofs.Concurrency.Deadlock
import Passbook.Proofs.Connection.Sessions
import Passbook.Proofs.Mail.Link
import Passbook.Proofs.Disclosure.Responses
import Passbook.Proofs.Transaction.FirstFailure
import Passbook.Proofs.Database.Server
import Passbook.Proofs.Transaction.Settlement
import Passbook.Proofs.Http.Screening
import Passbook.Proofs.Concurrency.Requests
import Passbook.Proofs.Transaction.Currencies
import Passbook.Proofs.Concurrency.Currencies
import Passbook.Proofs.Worker.Workshop
import Passbook.Proofs.Http.Pages
import Passbook.Proofs.Http.Passing
import Passbook.Proofs.Mail.Handover
import Passbook.Proofs.Record.Shown
import Passbook.Proofs.Mail.Markup
import Passbook.Proofs.Mail.RelayUrl
import Passbook.Proofs.Database.Faults
import Passbook.Proofs.Http.Wording
import Passbook.Proofs.Field.Address
import Passbook.Proofs.Database.Changes
import Passbook.Proofs.Worker.VerifiedAddress
import Passbook.Proofs.Transaction.Replay
import Passbook.Proofs.Settings.Loading
