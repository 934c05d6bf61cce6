import OfflineSync.Outbox.Record
import OfflineSync.Proofs.Entity.StoredMoments
import OfflineSync.Proofs.Outbox.NetEffect
import OfflineSync.Proofs.Remote.ChangeFilter
import OfflineSync.Proofs.Remote.CompiledQueries
import OfflineSync.Proofs.Remote.EntityAddresses
import OfflineSync.Proofs.Remote.EntityTags
import OfflineSync.Proofs.Store.AcceptedAnswers
import OfflineSync.Proofs.Store.Confinement
import OfflineSync.Proofs.Store.EditAdmission
import OfflineSync.Proofs.Store.GivenVersions
import OfflineSync.Proofs.Store.Legibility
import OfflineSync.Proofs.Store.PageDocuments
import OfflineSync.Proofs.Store.PurgedTables
import OfflineSync.Proofs.Store.ResultOrder
import OfflineSync.Proofs.Store.Results
import OfflineSync.Proofs.Store.TableShares
import OfflineSync.Proofs.Sync.Accounting
import OfflineSync.Proofs.Sync.Cancellation
import OfflineSync.Proofs.Sync.ConcededConflicts
import OfflineSync.Proofs.Sync.Conversations
import OfflineSync.Proofs.Sync.ExactWatermark
import OfflineSync.Proofs.Sync.FailureRecords
import OfflineSync.Proofs.Sync.Lifecycle
import OfflineSync.Proofs.Sync.OutboxAgreement
import OfflineSync.Proofs.Sync.Overwrites
import OfflineSync.Proofs.Sync.PullCounts
import OfflineSync.Proofs.Sync.PushOrder
import OfflineSync.Proofs.Sync.SendableOperations
import OfflineSync.Proofs.Sync.SingleWriter
import OfflineSync.Proofs.Sync.TableIndependence
import OfflineSync.Remote.Http
import OfflineSync.Settings.Loading
import OfflineSync.Settings.Saving
import OfflineSync.Sync.Lock
import OfflineSync.Sync.Opening
