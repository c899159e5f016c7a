import FlowWarden.Document.Basic
/-!
# The object of a new autoscaler

The autoscaler of a flow selects its pods by one label and may recommend up to the flow's maxima.
It only observes: it never evicts or changes a running container.
-/

namespace FlowWarden.Autoscaler

def apiGroup : String := "autoscaling.k8s.io"

def apiVersion : String := "v1"

/-- The kind of the objects in request paths. -/
def plural : String := "verticalpodautoscalers"

/-- What an autoscaler is created for. -/
structure Blueprint where
  /-- The pod label that selects the flow's pods. -/
  labelName : String
  /-- The name of the autoscaler and the value of the label. -/
  name : String
  container : String
  maxCpu : Document
  maxMemory : Document
  createdAt : Moment

/-- The object that is sent to the cluster. -/
def Blueprint.manifest (b : Blueprint) : Document :=
  .record [
    ("apiVersion", .text (apiGroup ++ "/" ++ apiVersion)),
    ("kind", .text "VerticalPodAutoscaler"),
    ("metadata", .record [
      ("name", .text b.name),
      ("labels", .record [
        ("managed-by", .text "flow-container-reaper"),
        ("created-at", .text b.createdAt.stamp)])]),
    ("spec", .record [
      ("selector", .record [("matchLabels", .record [(b.labelName, .text b.name)])]),
      ("updatePolicy", .record [("updateMode", .text "Off")]),
      ("resourcePolicy", .record [
        ("containerPolicies", .list [
          .record [
            ("containerName", .text b.container),
            ("maxAllowed", .record [("cpu", b.maxCpu), ("memory", b.maxMemory)])]])])])]

end FlowWarden.Autoscaler
