import CertManagerMetrics.Vec
import CertManagerMetrics.Registry

/-!
# The `Metrics` object and its server

`Metrics` is the shared object of the package: a logger, a registry created by `New` (not the
library's default registry), and eleven collectors.  `Metrics.newServer` registers the
collectors of `metricsToRegister` one after the other with `Metrics.registerMetric`, the body
of the loop of `NewServer`, and returns a server whose `/metrics` handler gathers
`m.registry` on each request (`Metrics.gather`).  As the library's `Gather`, the handler
writes a family only for a collector whose `Collect` yields a metric, so a vector without
children is not served at all (`Metrics.hasSamples_iff`).  The loop writes the log and the
registry and nothing else (`Metrics.newServer_frame`).

The state of a collector is kept in `Metrics` for the vectors that have one.  The two clock
functions read the injected clock when collected, and no function of the package observes
into the two summaries, which therefore have no children.  Logging is modelled by the list of
entries written through `m.log`.
-/

namespace CertManagerMetrics

/-- `namespace`: the namespace of cert-manager metric names. -/
def «namespace» : String := "certmanager"

/-- The variable labels of the certificate gauges and of `current_certificate_request_count`. -/
def certificateLabels : List String :=
  ["name", "namespace", "issuer_name", "issuer_kind", "issuer_group"]

/-- The variable labels of `certificate_ready_status`. -/
def readyStatusLabels : List String :=
  ["name", "namespace", "condition", "issuer_name", "issuer_kind", "issuer_group"]

/-- The variable labels of the ACME client metrics. -/
def acmeClientLabels : List String := ["scheme", "host", "path", "method", "status"]

/-- The variable label of the controller sync counters. -/
def controllerLabels : List String := ["controller"]

/-- The collectors held by `Metrics`, one per field. -/
inductive Collector
  | clockTimeSeconds
  | clockTimeSecondsGauge
  | certificateExpiryTimeSeconds
  | certificateRenewalTimeSeconds
  | certificateReadyStatus
  | acmeClientRequestDurationSeconds
  | acmeClientRequestCount
  | venafiClientRequestDurationSeconds
  | controllerSyncCallCount
  | controllerSyncErrorCount
  | certificateRequestCount
  deriving DecidableEq, Repr

/-- The kind of a collector, as the exposition reports it. -/
inductive Kind
  | counterFunc
  | gaugeFunc
  | gaugeVec
  | summaryVec
  | counterVec
  deriving DecidableEq, Repr

namespace Collector

/-- The descriptor built by `New` from each collector's options. -/
def desc : Collector → Desc
  | clockTimeSeconds => ⟨buildFQName «namespace» "" "clock_time_seconds",
      "DEPRECATED: use clock_time_seconds_gauge instead. The clock time given in seconds (from 1970/01/01 UTC).", []⟩
  | clockTimeSecondsGauge => ⟨buildFQName «namespace» "" "clock_time_seconds_gauge",
      "The clock time given in seconds (from 1970/01/01 UTC).", []⟩
  | certificateExpiryTimeSeconds => ⟨buildFQName «namespace» "" "certificate_expiration_timestamp_seconds",
      "The date after which the certificate expires. Expressed as a Unix Epoch Time.", certificateLabels⟩
  | certificateRenewalTimeSeconds => ⟨buildFQName «namespace» "" "certificate_renewal_timestamp_seconds",
      "The number of seconds before expiration time the certificate should renew.", certificateLabels⟩
  | certificateReadyStatus => ⟨buildFQName «namespace» "" "certificate_ready_status",
      "The ready status of the certificate.", readyStatusLabels⟩
  | acmeClientRequestDurationSeconds => ⟨buildFQName «namespace» "http" "acme_client_request_duration_seconds",
      "The HTTP request latencies in seconds for the ACME client.", acmeClientLabels⟩
  | acmeClientRequestCount => ⟨buildFQName «namespace» "http" "acme_client_request_count",
      "The number of requests made by the ACME client.", acmeClientLabels⟩
  | venafiClientRequestDurationSeconds => ⟨buildFQName «namespace» "http" "venafi_client_request_duration_seconds",
      "ALPHA: The HTTP request latencies in seconds for the Venafi client. This metric is currently alpha as we would like to understand whether it helps to measure Venafi call latency. Please leave feedback if you have any.",
      ["api_call"]⟩
  | controllerSyncCallCount => ⟨buildFQName «namespace» "" "controller_sync_call_count",
      "The number of sync() calls made by a controller.", controllerLabels⟩
  | controllerSyncErrorCount => ⟨buildFQName «namespace» "" "controller_sync_error_count",
      "The number of errors encountered during controller sync().", controllerLabels⟩
  | certificateRequestCount => ⟨buildFQName "" "" "current_certificate_request_count",
      "The current number of certificate requests.", certificateLabels⟩

/-- The constructor `New` calls for each collector. -/
def kind : Collector → Kind
  | clockTimeSeconds => .counterFunc
  | clockTimeSecondsGauge => .gaugeFunc
  | acmeClientRequestDurationSeconds | venafiClientRequestDurationSeconds => .summaryVec
  | acmeClientRequestCount | controllerSyncCallCount | controllerSyncErrorCount => .counterVec
  | certificateExpiryTimeSeconds | certificateRenewalTimeSeconds | certificateReadyStatus
  | certificateRequestCount => .gaugeVec

end Collector

/-- `metricsToRegister`, in the order of `NewServer`. -/
def metricsToRegister : List Collector :=
  [.certificateRequestCount, .clockTimeSeconds, .clockTimeSecondsGauge,
    .certificateExpiryTimeSeconds, .certificateRenewalTimeSeconds, .certificateReadyStatus,
    .acmeClientRequestDurationSeconds, .venafiClientRequestDurationSeconds,
    .acmeClientRequestCount, .controllerSyncCallCount, .controllerSyncErrorCount]

/-- A value of a log entry: a string, or a descriptor, which the package logs as
`desc.String()`. -/
inductive LogValue
  | str (s : String)
  | desc (d : Desc)
  deriving DecidableEq, Repr

/-- The error of an `Error` log entry. -/
inductive LogError
  /-- Returned by `Register`. -/
  | register (e : RegisterError Collector)
  /-- Returned by the client's `List`. -/
  | list (e : String)
  deriving DecidableEq, Repr

/-- An entry written through `m.log`. -/
inductive LogEntry
  /-- `Info(msg, keysAndValues...)` -/
  | info (msg : String) (keysAndValues : List (String × LogValue))
  /-- `Error(err, msg, keysAndValues...)` -/
  | error (err : LogError) (msg : String) (keysAndValues : List (String × LogValue))
  deriving DecidableEq, Repr

/-- The entry is the error `NewServer` logs when `Register` refuses a collector. -/
def LogEntry.isRegisterError : LogEntry → Bool
  | .error (.register _) _ _ => true
  | _ => false

/-- `Metrics`: the entries written to its logger, its registry and the children of its
vectors. -/
structure Metrics where
  /-- The entries written through `log` (the logger named `metrics`). -/
  log : List LogEntry
  /-- The registry the server's handler gathers. -/
  registry : Registry Collector
  /-- `certificate_expiration_timestamp_seconds`. -/
  certificateExpiryTimeSeconds : MetricVec certificateLabels Int
  /-- `certificate_renewal_timestamp_seconds`. -/
  certificateRenewalTimeSeconds : MetricVec certificateLabels Int
  /-- `certificate_ready_status`. -/
  certificateReadyStatus : MetricVec readyStatusLabels Int
  /-- `http_acme_client_request_count`. -/
  acmeClientRequestCount : MetricVec acmeClientLabels Nat
  /-- `controller_sync_call_count`. -/
  controllerSyncCallCount : MetricVec controllerLabels Nat
  /-- `controller_sync_error_count`. -/
  controllerSyncErrorCount : MetricVec controllerLabels Nat
  /-- `current_certificate_request_count`, the gauge of the incremental path. -/
  certificateRequestCount : MetricVec certificateLabels Int

namespace Metrics

/-- `New(log, c)`: a fresh registry and collectors without children. -/
def new : Metrics :=
  ⟨[], .new, .empty, .empty, .empty, .empty, .empty, .empty, .empty⟩

/-! ### `NewServer` -/

/-- One iteration of the loop of `NewServer`: `Unregister` is called to check whether the
metric is already registered; if it was not, it is registered and the outcome logged, and if
it was, the loop logs that it skips it. -/
def registerMetric (m : Metrics) (metric : Collector) : Metrics :=
  let (alreadyRegistered, registry) := m.registry.unregister Collector.desc metric
  if !alreadyRegistered then
    match registry.register Collector.desc metric with
    | .error err =>
      { m with registry,
               log := m.log ++ [.error (.register err) "Failed to register metric"
                 [("metric", .desc metric.desc)]] }
    | .ok registry =>
      { m with registry, log := m.log ++ [.info "Registered metric" [("name", .desc metric.desc)]] }
  else
    { m with registry,
             log := m.log ++ [.info "Metric already registered; skipping" [("name", .desc metric.desc)]] }

/-- A `time.Duration`, in nanoseconds. -/
def second : Nat := 1000000000

/-- `prometheusMetricsServerReadTimeout`. -/
def prometheusMetricsServerReadTimeout : Nat := 8 * second

/-- `prometheusMetricsServerWriteTimeout`. -/
def prometheusMetricsServerWriteTimeout : Nat := 8 * second

/-- `prometheusMetricsServerMaxHeaderBytes`: 1 MiB. -/
def prometheusMetricsServerMaxHeaderBytes : Nat := 2 ^ 20

/-- The `http.Server` returned by `NewServer`; its handler serves `Metrics.gather` of the
registry at `metricsPath`. -/
structure Server where
  /-- `ln.Addr().String()`. -/
  addr : String
  /-- The one path of the mux. -/
  metricsPath : String
  /-- `ReadTimeout`. -/
  readTimeout : Nat
  /-- `WriteTimeout`. -/
  writeTimeout : Nat
  /-- `MaxHeaderBytes`. -/
  maxHeaderBytes : Nat
  deriving DecidableEq, Repr

/-- `NewServer(ln)`, for a listener whose address is `addr`. -/
def newServer (m : Metrics) (addr : String) : Metrics × Server :=
  (metricsToRegister.foldl registerMetric m,
    ⟨addr, "/metrics", prometheusMetricsServerReadTimeout, prometheusMetricsServerWriteTimeout,
      prometheusMetricsServerMaxHeaderBytes⟩)

theorem newServer_fst (m : Metrics) (addr : String) :
    (m.newServer addr).1 = metricsToRegister.foldl registerMetric m := by
  simp only [newServer]

/-- The loop of `NewServer` writes the log and the registry and nothing else. -/
theorem registerMetric_frame (m : Metrics) (c : Collector) :
    { m.registerMetric c with log := m.log, registry := m.registry } = m := by
  unfold registerMetric
  split
  split <;> (try split) <;> rfl

theorem foldl_registerMetric_frame (L : List Collector) (m : Metrics) :
    { L.foldl registerMetric m with log := m.log, registry := m.registry } = m := by
  induction L generalizing m with
  | nil => rfl
  | cons c L ih =>
    exact (congrArg (fun x : Metrics => { x with log := m.log, registry := m.registry })
      (ih (m.registerMetric c))).trans (registerMetric_frame m c)

/-- `NewServer` changes the log and the registry and no collector's children. -/
theorem newServer_frame (m : Metrics) (addr : String) :
    { (m.newServer addr).1 with log := m.log, registry := m.registry } = m := by
  rw [newServer_fst]
  exact foldl_registerMetric_frame _ m

/-! ### Incremental updates -/

/-- The body shared by `IncrementSyncCallCount` and `IncrementSyncErrorCount`:
`WithLabelValues(controllerName).Inc()` on the counter that `get` reads and `set` writes. -/
def incrementSyncCount (get : Metrics → MetricVec controllerLabels Nat)
    (set : Metrics → MetricVec controllerLabels Nat → Metrics) (m : Metrics)
    (controllerName : String) : Except LabelError Metrics := do
  let v ← (get m).addWithLabelValues [controllerName] 1
  pure (set m v)

/-- `IncrementSyncCallCount(controllerName)`. -/
def incrementSyncCallCount (m : Metrics) (controllerName : String) : Except LabelError Metrics :=
  incrementSyncCount (·.controllerSyncCallCount)
    (fun m v => { m with controllerSyncCallCount := v }) m controllerName

/-- `IncrementSyncErrorCount(controllerName)`. -/
def incrementSyncErrorCount (m : Metrics) (controllerName : String) : Except LabelError Metrics :=
  incrementSyncCount (·.controllerSyncErrorCount)
    (fun m v => { m with controllerSyncErrorCount := v }) m controllerName

/-- **A sync counter increment never panics**: its one label value is one per variable
label. -/
theorem incrementSyncCount_eq (get : Metrics → MetricVec controllerLabels Nat)
    (set : Metrics → MetricVec controllerLabels Nat → Metrics) (m : Metrics)
    (controllerName : String) :
    incrementSyncCount get set m controllerName =
      .ok (set m ((get m).add ⟨[controllerName], rfl⟩ 1)) := by
  rw [incrementSyncCount, (get m).addWithLabelValues_of_length 1
    (show [controllerName].length = controllerLabels.length from rfl)]
  rfl

/-- The body shared by `IncrementCurrentCertificateRequest` and
`DecrementCurrentCertificateRequest`: log `msg` with the label values, then add `d` to the
child of `certificateRequestCount` they name. -/
def adjustCurrentCertificateRequest (m : Metrics) (msg : String) (d : Int)
    (name «namespace» issuerName issuerKind issuerGroup : String) : Except LabelError Metrics := do
  let m := { m with log := m.log ++ [LogEntry.info msg [("name", .str name), ("namespace", .str «namespace»),
    ("issuerName", .str issuerName), ("issuerKind", .str issuerKind),
    ("issuerGroup", .str issuerGroup)]] }
  let v ← m.certificateRequestCount.addWithLabelValues
    [name, «namespace», issuerName, issuerKind, issuerGroup] d
  pure { m with certificateRequestCount := v }

/-- `IncrementCurrentCertificateRequest(name, namespace, issuerName, issuerKind, issuerGroup)`. -/
def incrementCurrentCertificateRequest (m : Metrics)
    (name «namespace» issuerName issuerKind issuerGroup : String) : Except LabelError Metrics :=
  m.adjustCurrentCertificateRequest "Incrementing certificateRequestCount" 1
    name «namespace» issuerName issuerKind issuerGroup

/-- `DecrementCurrentCertificateRequest(name, namespace, issuerName, issuerKind, issuerGroup)`. -/
def decrementCurrentCertificateRequest (m : Metrics)
    (name «namespace» issuerName issuerKind issuerGroup : String) : Except LabelError Metrics :=
  m.adjustCurrentCertificateRequest "Decrementing certificateRequestCount" (-1)
    name «namespace» issuerName issuerKind issuerGroup

/-- The tuple `(name, namespace, issuerName, issuerKind, issuerGroup)` of
`certificateRequestCount`. -/
def requestTuple (name «namespace» issuerName issuerKind issuerGroup : String) :
    LabelValues certificateLabels :=
  ⟨[name, «namespace», issuerName, issuerKind, issuerGroup], rfl⟩

/-- **The incremental updates never panic and touch one child of one gauge**: they append
their log entry and add `d` to the child of their own tuple of `certificateRequestCount`. -/
theorem adjustCurrentCertificateRequest_eq (m : Metrics) (msg : String) (d : Int)
    (name «namespace» issuerName issuerKind issuerGroup : String) :
    m.adjustCurrentCertificateRequest msg d name «namespace» issuerName issuerKind issuerGroup =
      .ok { m with
        log := m.log ++ [.info msg [("name", .str name), ("namespace", .str «namespace»),
          ("issuerName", .str issuerName), ("issuerKind", .str issuerKind),
          ("issuerGroup", .str issuerGroup)]],
        certificateRequestCount := m.certificateRequestCount.add
          (requestTuple name «namespace» issuerName issuerKind issuerGroup) d } := by
  have h := m.certificateRequestCount.addWithLabelValues_of_length d
    (show [name, «namespace», issuerName, issuerKind, issuerGroup].length = 5 from rfl)
  simp [adjustCurrentCertificateRequest, h, requestTuple, bind, Except.bind, pure, Except.pure]

/-! ### Exposition -/

/-- `Collect` of each collector: its samples by label values. -/
def collect (m : Metrics) (now : Int) : Collector → List String → Option Int
  | .clockTimeSeconds | .clockTimeSecondsGauge => fun lvs => if lvs = [] then some now else none
  | .certificateExpiryTimeSeconds => m.certificateExpiryTimeSeconds.samples id
  | .certificateRenewalTimeSeconds => m.certificateRenewalTimeSeconds.samples id
  | .certificateReadyStatus => m.certificateReadyStatus.samples id
  | .acmeClientRequestDurationSeconds | .venafiClientRequestDurationSeconds => fun _ => none
  | .acmeClientRequestCount => m.acmeClientRequestCount.samples Int.ofNat
  | .controllerSyncCallCount => m.controllerSyncCallCount.samples Int.ofNat
  | .controllerSyncErrorCount => m.controllerSyncErrorCount.samples Int.ofNat
  | .certificateRequestCount => m.certificateRequestCount.samples id

/-- A metric family as the handler writes it: descriptor, type and samples. -/
structure MetricFamily where
  /-- The descriptor of the collector. -/
  desc : Desc
  /-- The type line. -/
  kind : Kind
  /-- The samples by label values. -/
  samples : List String → Option Int

/-- `Collect` yields at least one metric: the clock functions always one, a vector one per
child, and the summaries none, nothing observing into them. -/
def hasSamples (m : Metrics) : Collector → Bool
  | .clockTimeSeconds | .clockTimeSecondsGauge => true
  | .certificateExpiryTimeSeconds => m.certificateExpiryTimeSeconds.hasChildren
  | .certificateRenewalTimeSeconds => m.certificateRenewalTimeSeconds.hasChildren
  | .certificateReadyStatus => m.certificateReadyStatus.hasChildren
  | .acmeClientRequestDurationSeconds | .venafiClientRequestDurationSeconds => false
  | .acmeClientRequestCount => m.acmeClientRequestCount.hasChildren
  | .controllerSyncCallCount => m.controllerSyncCallCount.hasChildren
  | .controllerSyncErrorCount => m.controllerSyncErrorCount.hasChildren
  | .certificateRequestCount => m.certificateRequestCount.hasChildren

/-- A collector has samples exactly when `Collect` reports one at some label values. -/
theorem hasSamples_iff (m : Metrics) (now : Int) (c : Collector) :
    m.hasSamples c = true ↔ ∃ lvs, (m.collect now c lvs).isSome := by
  cases c <;> first
    | exact MetricVec.hasChildren_iff_samples _ _
    | simp [hasSamples, collect]

/-- The handler `promhttp.HandlerFor(m.registry, ...)`: the family of each registered name
whose collector yields a metric, collected at clock time `now`. -/
def gather (m : Metrics) (now : Int) (name : String) : Option MetricFamily :=
  (m.registry.collectorsByID name).bind fun c =>
    if m.hasSamples c then some ⟨c.desc, c.kind, m.collect now c⟩ else none

end Metrics

end CertManagerMetrics
