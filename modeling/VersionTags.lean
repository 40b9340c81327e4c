import VersionTags.Main
import VersionTags.Proofs.Storage.Scope
import VersionTags.Proofs.Storage.Rows
import VersionTags.Proofs.Store.Read
import VersionTags.Proofs.Store.Write
import VersionTags.Proofs.Store.Effect
import VersionTags.Proofs.Store.AllOrNothing
import VersionTags.Proofs.Store.Isolation
import VersionTags.Proofs.Store.Joined
import VersionTags.Proofs.Store.Ids
import VersionTags.Proofs.Session.Run
import VersionTags.Proofs.Session.Paired
import VersionTags.Proofs.Session.Journal
import VersionTags.Proofs.Session.Serial
import VersionTags.Proofs.Session.History
import VersionTags.Proofs.Session.Transaction
import VersionTags.Proofs.Session.Bracket
import VersionTags.Proofs.Session.Transparent
import VersionTags.Proofs.Store.Strategy
import VersionTags.Proofs.Session.Strategy
import VersionTags.Proofs.Session.Conservation
import VersionTags.Proofs.Session.Ids
import VersionTags.Proofs.Tree.Change
import VersionTags.Proofs.Tree.Replaced
import VersionTags.Proofs.Store.Settled
import VersionTags.Proofs.Store.Reopen
import VersionTags.Proofs.Command.Request
import VersionTags.Proofs.Command.Refinement
import VersionTags.Proofs.Text.ByteOrder
import VersionTags.Proofs.Store.Counts
import VersionTags.Proofs.Store.Pages
import VersionTags.Proofs.Store.Resolution
import VersionTags.Proofs.Store.Removal
import VersionTags.Proofs.Session.Removal
import VersionTags.Proofs.Text.Digits
import VersionTags.Proofs.Time.Stored
import VersionTags.Proofs.Store.Search
import VersionTags.Proofs.Store.Gains
import VersionTags.Proofs.Session.Batch
import VersionTags.Proofs.Session.Copy
import VersionTags.Proofs.Session.Lookup
import VersionTags.Proofs.Text.Lowercase
import VersionTags.Proofs.Text.Words
import VersionTags.Proofs.Page
import VersionTags.Proofs.Session.Spelling
import VersionTags.Proofs.Session.Times
import VersionTags.Proofs.Config.Locator
import VersionTags.Proofs.Command.Quiet
import VersionTags.Proofs.Time.Relaxed
import VersionTags.Proofs.Json.Text
import VersionTags.Proofs.Json.Record
import VersionTags.Proofs.Toml.Text
import VersionTags.Proofs.Toml.Number
import VersionTags.Proofs.Toml.Document
import VersionTags.Proofs.Tree.Written
import VersionTags.Proofs.Tree.Machine
import VersionTags.Proofs.Config.Text
import VersionTags.Proofs.Config.File
