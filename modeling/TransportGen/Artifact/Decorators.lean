import TransportGen.Service.Imports
import TransportGen.SourceFile
import TransportGen.View

/-!
# Decorators of a service

`logging.rs` wraps a service and logs its calls, and `instrumenting.rs` wraps one and reports how
long calls take and whether they succeed.
-/

namespace TransportGen.Artifact

open Text (quote)

/-- The call that a decorator passes on. -/
def nextCall (m : MethodView) : String :=
  "let result = self.next." ++ m.name ++ "(" ++ m.forwardArgs ++ ")" ++ m.awaitSuffix ++ ";"

/-! ## Logging -/

/-- The method that logs a call. -/
def loggedMethod (m : MethodView) : Code :=
  let name := "method = \"" ++ m.name ++ "\""
  block m.signature
    (["tracing::debug!(" ++ name ++ m.logFields ++ ", \"calling\");",
      "let started = Instant::now();", nextCall m,
      "let elapsed_ms = started.elapsed().as_millis() as u64;"] ++
    (if m.returnsResult then
      block "match &result"
        ["Ok(_) => tracing::info!(" ++ name ++ ", elapsed_ms, \"call succeeded\"),",
          "Err(err) => tracing::warn!(" ++ name ++ ", elapsed_ms, error = ?err, \"call failed\"),"]
    else ["tracing::info!(" ++ name ++ ", elapsed_ms, \"call finished\");"]) ++
    ["result"])

/-- The items of the logging decorator. -/
def loggingItems (interface : String) (methods : List MethodView) : List Item :=
  let logging := interface ++ "Logging"
  [ .type logging <|
      ["/// Logs every call to the wrapped [`" ++ interface ++ "`]", "///",
        "/// Arguments are logged with their `Debug` form before the call, the outcome",
        "/// and elapsed time after it."] ++
      block ("pub struct " ++ logging ++ "<S>") ["next: S,"],
    .implementation <|
      block ("impl<S> " ++ logging ++ "<S>")
        (block "pub fn new(next: S) -> Self" [logging ++ " \x7b next \x7d"] ++ [""] ++
        block "pub fn into_inner(self) -> S" ["self.next"]),
    .implementation <|
      block ("impl<S: " ++ interface ++ "> " ++ interface ++ " for " ++ logging ++ "<S>")
        (methods.flatMap loggedMethod) ]

/-- The file of the logging decorator. -/
def loggingFiles (s : ServiceSpec) : List SourceFile :=
  [{ path := ["logging.rs"]
     doc := "Call logging decorator"
     imports := addPaths s.imports ["std::time::Instant"]
     items := loggingItems s.interfaceName s.views }]

/-! ## Metrics -/

/-- The head of the function that takes an observation. -/
def observeHead : String :=
  "fn observe(&self, method: &'static str, elapsed: Duration, success: bool)"

/-- The method that observes a call. -/
def observedMethod (m : MethodView) : Code :=
  block m.signature
    ["let started = Instant::now();", nextCall m,
      "self.metrics.observe(\"" ++ m.name ++ "\", started.elapsed(), " ++ m.successExpr ++ ");",
      "result"]

/-- The items that count the calls of one method. -/
def counterItems : List Item :=
  [ .type "MethodCounters" <|
      ["/// Lock-free counters for one method", "#[derive(Debug, Default)]"] ++
      block "pub struct MethodCounters"
        ["pub success: AtomicU64,", "pub failure: AtomicU64,", "pub total_micros: AtomicU64,"],
    .implementation <|
      block "impl MethodCounters"
        (block "pub fn calls(&self) -> u64"
          ["self.success.load(Ordering::Relaxed) + self.failure.load(Ordering::Relaxed)"] ++ [""] ++
        block "fn record(&self, elapsed: Duration, success: bool)"
          ["let counter = if success \x7b &self.success \x7d else \x7b &self.failure \x7d;",
            "counter.fetch_add(1, Ordering::Relaxed);",
            "let micros = u64::try_from(elapsed.as_micros()).unwrap_or(u64::MAX);",
            "self.total_micros.fetch_add(micros, Ordering::Relaxed);"]) ]

/-- The items that count the calls of all methods. -/
def countersItems (interface : String) (methods : List MethodView) : List Item :=
  let metrics := interface ++ "Metrics"
  let counters := interface ++ "Counters"
  [ .type counters <|
      ["/// In-process [`" ++ metrics ++ "`] keeping counters per method",
        "#[derive(Debug, Default)]"] ++
      block ("pub struct " ++ counters)
        (methods.map fun m => "pub " ++ m.name ++ ": MethodCounters,"),
    .implementation <|
      block ("impl " ++ counters)
        (block "pub fn method(&self, name: &str) -> Option<&MethodCounters>"
          (block "match name"
            (methods.map (fun m => "\"" ++ m.name ++ "\" => Some(&self." ++ m.name ++ "),") ++
            ["_ => None,"]))),
    .implementation <|
      block ("impl " ++ metrics ++ " for " ++ counters)
        (block observeHead
          (block "if let Some(counters) = self.method(method)"
            ["counters.record(elapsed, success);"])) ]

/-- The items of the metrics decorator. -/
def instrumentingItems (interface : String) (methods : List MethodView) : List Item :=
  let metrics := interface ++ "Metrics"
  let instrumenting := interface ++ "Instrumenting"
  [ .type metrics <|
      "/// Receives one observation per call" ::
      block ("pub trait " ++ metrics) [observeHead ++ ";"],
    .implementation <|
      block ("impl<M: " ++ metrics ++ " + ?Sized> " ++ metrics ++ " for Arc<M>")
        (block observeHead ["(**self).observe(method, elapsed, success)"]) ] ++
  counterItems ++ countersItems interface methods ++
  [ .type instrumenting <|
      ["/// Reports call counts, failures and latency of the wrapped [`" ++ interface ++ "`]"] ++
      block ("pub struct " ++ instrumenting ++ "<S, M>") ["next: S,", "metrics: M,"],
    .implementation <|
      block ("impl<S, M> " ++ instrumenting ++ "<S, M>")
        (block "pub fn new(next: S, metrics: M) -> Self"
          [instrumenting ++ " \x7b next, metrics \x7d"] ++ [""] ++
        block "pub fn metrics(&self) -> &M" ["&self.metrics"]),
    .implementation <|
      block ("impl<S: " ++ interface ++ ", M: " ++ metrics ++ "> " ++ interface ++ " for " ++
          instrumenting ++ "<S, M>")
        (methods.flatMap observedMethod) ]

/-- The file of the metrics decorator. -/
def instrumentingFiles (s : ServiceSpec) : List SourceFile :=
  [{ path := ["instrumenting.rs"]
     doc := "Call metrics decorator"
     imports := addPaths s.imports
       ["std::sync::atomic::AtomicU64", "std::sync::atomic::Ordering", "std::sync::Arc",
         "std::time::Duration", "std::time::Instant"]
     items := instrumentingItems s.interfaceName s.views }]

end TransportGen.Artifact
