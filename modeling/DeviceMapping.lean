import DeviceMapping.Text.Blank
import DeviceMapping.Text.Letter
import DeviceMapping.Table.Lookup
import DeviceMapping.Json.Printer
import DeviceMapping.Json.Reader
import DeviceMapping.Thing.Schema
import DeviceMapping.Thing.Message
import DeviceMapping.Formula.Literal
import DeviceMapping.Formula.Evaluation
import DeviceMapping.Transformation.Application
import DeviceMapping.Rule.Detail
import DeviceMapping.Store.Memory
import DeviceMapping.Store.Location
import DeviceMapping.Mapping.Resolution
import DeviceMapping.Mapping.Binding
import DeviceMapping.Mapping.Payload
import DeviceMapping.Service.Delivery
import DeviceMapping.Service.Deployment
import DeviceMapping.Cache.Run
import DeviceMapping.Settings.Layer
import DeviceMapping.Main
import DeviceMapping.Cache.Timeline
import DeviceMapping.Cache.Listener
import DeviceMapping.Proofs.Cache.Failure
import DeviceMapping.Proofs.Cache.Barrier
import DeviceMapping.Proofs.Cache.LazyExpiry
import DeviceMapping.Proofs.Cache.Crowding
import DeviceMapping.Proofs.Service.Coherence
import DeviceMapping.Proofs.Service.Delivery
import DeviceMapping.Proofs.Service.Overtaking
import DeviceMapping.Proofs.Store.Identity
import DeviceMapping.Proofs.Mapping.BulkSave
import DeviceMapping.Proofs.Mapping.Batch
import DeviceMapping.Proofs.Mapping.Payload
import DeviceMapping.Proofs.Mapping.Undo
import DeviceMapping.Proofs.Mapping.Reduction
import DeviceMapping.Proofs.Mapping.Resolution
import DeviceMapping.Store.Session
import DeviceMapping.Proofs.Store.ScopeDeletion
import DeviceMapping.Proofs.Store.Transaction
import DeviceMapping.Proofs.Document.RoundTrip
import DeviceMapping.Proofs.Transformation.Configuration
import DeviceMapping.Proofs.Mapping.Precedence
import DeviceMapping.Proofs.Cache.Expiry
import DeviceMapping.Proofs.Formula.Normal
import DeviceMapping.Proofs.Formula.Constants
import DeviceMapping.Proofs.Mapping.Fallback
import DeviceMapping.Proofs.Mapping.ProductView
import DeviceMapping.Proofs.Mapping.RuleOrder
import DeviceMapping.Proofs.Transformation.TableForms
import DeviceMapping.Proofs.Transformation.Readings
import DeviceMapping.Proofs.Store.RowQueries
import DeviceMapping.Proofs.Cache.Permits
import DeviceMapping.Proofs.Cache.Balance
import DeviceMapping.Proofs.Formula.Repetition
