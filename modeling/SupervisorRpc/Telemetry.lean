import SupervisorRpc.Activity

/-! Telemetry.  Instruments are made when they are first measured with, once per name and kind, and
belong to the provider of that moment: a new provider of metrics starts without instruments.
`Instruments.events` turns the activities of a call into the events that the world sees. -/

namespace SupervisorRpc

/-- What the world sees: activities, and the making of tracers, meters and instruments. -/
inductive Event where
  | activity (a : Activity)
  | meter (name : Text)
  | createCounter (name description unit : Text)
  | createHistogram (name description unit : Text)
  | tracerProvider (service : Text)
  | spanExporter (endpoint : Text)
  | addSpanProcessor
  | setTracerProvider
  | metricExporter (endpoint : Text)
  | metricReader (interval : Number)
  | meterProvider (service : Text)
  | setMeterProvider

/-- The instruments that the present provider has, by name. -/
structure Instruments where
  counters : List Text
  histograms : List Text
deriving DecidableEq

namespace Instruments

/-- No instruments. -/
def empty : Instruments := ⟨[], []⟩

def meterName : Text := "gonit_api"

def counterUnit : Text := "1"

def histogramUnit : Text := "ms"

/-- Sees to it that there is a counter. -/
def needCounter (i : Instruments) (name description unit : Text) : List Event × Instruments :=
  if i.counters.any (· = name) then ([], i)
  else
    ([.meter meterName, .createCounter name description unit],
      { i with counters := name :: i.counters })

/-- Sees to it that there is a histogram. -/
def needHistogram (i : Instruments) (name description unit : Text) : List Event × Instruments :=
  if i.histograms.any (· = name) then ([], i)
  else
    ([.meter meterName, .createHistogram name description unit],
      { i with histograms := name :: i.histograms })

/-- The events of an activity.  Measuring makes the instrument first, if there is none. -/
def eventsOf (i : Instruments) (a : Activity) : List Event × Instruments :=
  let (made, i) :=
    match a with
    | .add name _ _ => i.needCounter name (text "Counter for " ++ name) counterUnit
    | .record name _ _ =>
      i.needHistogram name (text "Latency histogram for " ++ name) histogramUnit
    | _ => ([], i)
  (made ++ [.activity a], i)

/-- The events of activities, in order. -/
def events (i : Instruments) : List Activity → List Event × Instruments
  | [] => ([], i)
  | a :: rest =>
    let (first, i) := i.eventsOf a
    let (others, i) := i.events rest
    (first ++ others, i)

end Instruments

namespace Telemetry

def defaultEndpoint : Text := "localhost:4317"

/-- How often metrics are exported, in milliseconds. -/
def defaultInterval : Number := .int 5000

/-- The log line of a completed set-up. -/
def configured (part logger service endpoint : Text) : Event :=
  .activity (.log .info logger
    (text "OpenTelemetry " ++ part ++ text " configured, service name: " ++ service ++
      text ", OTLP endpoint: " ++ endpoint))

/-- Sets up the export of spans. -/
def setupTracer (service endpoint : Text) : List Event :=
  [.tracerProvider service, .spanExporter endpoint, .addSpanProcessor, .setTracerProvider,
    configured "trace" "gonit_api.telemetry.tracer" service endpoint,
    .activity (.tracer service)]

/-- Sets up the export of metrics.  The instruments made before belong to the provider before. -/
def setupMetrics (service endpoint : Text) (interval : Number) : List Event × Instruments :=
  ([.metricExporter endpoint, .metricReader interval, .meterProvider service, .setMeterProvider,
    configured "metrics" "gonit_api.telemetry.metrics" service endpoint,
    .meter service], Instruments.empty)

end Telemetry

end SupervisorRpc
