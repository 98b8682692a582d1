import TektonPruner.Config.Types
import TektonPruner.Config.Resolve
import TektonPruner.Config.Store
import TektonPruner.Store.Object
import TektonPruner.Store.Prog
import TektonPruner.Store.Run
import TektonPruner.History.Cleanup
import TektonPruner.History.Victims
import TektonPruner.Lock.Value
import TektonPruner.Lock.Locker
import TektonPruner.History.Process
import TektonPruner.History.Concurrent
import TektonPruner.Metrics.DeletionTracker
import TektonPruner.Metrics.Recorder
import TektonPruner.Webhook.Validate
import TektonPruner.Go.Strings
import TektonPruner.Observability.Env
import TektonPruner.Metrics.MetricsConfig
import TektonPruner.Metrics.Exporter
import TektonPruner.Observability.Labels
import TektonPruner.Observability.Setup
