/-!
# What is left out

Types that change too often to be worth an entry in the index, and the annotations that are passed
on to it.

`isNoisy` is `should_skip_resource`, and `passes` is `annotation_allowed`.
-/

namespace ClusterFeed.Selection

/-- Group and plural name of the types that are never watched. -/
def noisyTypes : List (String × String) :=
  [("", "events"), ("events.k8s.io", "events"), ("coordination.k8s.io", "leases"),
    ("discovery.k8s.io", "endpointslices")]

/-- Whether a type is never watched, whatever its version. -/
def isNoisy (group resource : String) : Bool :=
  noisyTypes.contains (group, resource)

/-- Annotations that are kept back whatever their last part. -/
def deniedAnnotations : List String :=
  ["kubectl.kubernetes.io/last-applied-configuration"]

/-- Beginnings of annotations that are kept back. -/
def deniedBeginnings : List String :=
  ["meta.helm.sh/", "helm.sh/"]

/-- The last part of an annotation's key that is passed on. -/
def passedAnnotations : List String :=
  ["description", "summary", "owner", "team", "documentation"]

/-- The part of a key after its last slash. -/
def lastPart (key : String) : String :=
  String.ofList (key.toList.reverse.takeWhile (· != '/')).reverse

/-- Whether an annotation is passed on. -/
def passes (key : String) : Bool :=
  !deniedAnnotations.contains key &&
    !deniedBeginnings.any (fun b => b.toList.isPrefixOf key.toList) &&
    passedAnnotations.contains (lastPart key)

end ClusterFeed.Selection
