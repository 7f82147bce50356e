import ZoneKeeper.Main
import ZoneKeeper.Proofs.Api.Exchange
import ZoneKeeper.Proofs.Api.Origin
import ZoneKeeper.Proofs.Api.Query
import ZoneKeeper.Proofs.CommandLine.Contract
import ZoneKeeper.Proofs.Domain.LabelRule
import ZoneKeeper.Proofs.Domain.Owner
import ZoneKeeper.Proofs.Envelope.Levels
import ZoneKeeper.Proofs.Envelope.Spelling
import ZoneKeeper.Proofs.RecordSet
import ZoneKeeper.Proofs.Settings.Bytes
import ZoneKeeper.Proofs.Text.Words
import ZoneKeeper.Proofs.Update.Address
import ZoneKeeper.Proofs.Update.Cancellation
import ZoneKeeper.Proofs.Update.Credentials
import ZoneKeeper.Proofs.Update.Interleaving
import ZoneKeeper.Proofs.Update.Log
import ZoneKeeper.Proofs.Update.Outcome
import ZoneKeeper.Proofs.Update.Priority
import ZoneKeeper.Proofs.Update.Refusal
