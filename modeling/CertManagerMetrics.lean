import CertManagerMetrics.Vec
import CertManagerMetrics.Registry
import CertManagerMetrics.Metrics
import CertManagerMetrics.Server
import CertManagerMetrics.RequestCount
import CertManagerMetrics.Recompute
import CertManagerMetrics.Incremental
import CertManagerMetrics.Process
import CertManagerMetrics.Run
import CertManagerMetrics.Interleaving
import CertManagerMetrics.NoResetInterleaving
import CertManagerMetrics.ConcurrentNewServer
