import AudioHost.Document.Reader
import AudioHost.Settings.Reader
import AudioHost.Driver.Script
import AudioHost.Session
import AudioHost.Ring.Contents
import AudioHost.Proofs.MailboxQueues
import AudioHost.Proofs.ClockAuthority
import AudioHost.Proofs.LivesInOrder
import AudioHost.Proofs.Delivery
import AudioHost.Proofs.HubActions
import AudioHost.Proofs.SessionSteps
import AudioHost.Proofs.Phases
import AudioHost.Proofs.WakeUps
import AudioHost.Proofs.Rollback
import AudioHost.Proofs.ToldPosition
import AudioHost.Proofs.MailGenerations
import AudioHost.Proofs.SettingsInForce
import AudioHost.Proofs.FreshStarts
import AudioHost.Proofs.DefaultRole
import AudioHost.Proofs.ClockHistory
import AudioHost.Proofs.Adjustments
import AudioHost.Proofs.AppliedSettings
import AudioHost.Proofs.BlamedDrivers
import AudioHost.Proofs.CanonicalForms
import AudioHost.Proofs.Dealings
import AudioHost.Proofs.CanonicalTraffic
import AudioHost.Proofs.Engagements
import AudioHost.Proofs.MessageFraming
import AudioHost.Proofs.CatalogListings
import AudioHost.Proofs.CatalogChoices
import AudioHost.Proofs.DropWarnings
import AudioHost.Proofs.RingUses
import AudioHost.Proofs.SoundSettings
