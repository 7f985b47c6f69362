import KubeStartupCPUBoost.JsonCodec
import KubeStartupCPUBoost.LabelSelector
import Mathlib.Data.Rat.Defs

/-!
# Pods and the libraries that read and write them

The parts of a Kubernetes pod that the controller reads or writes: its key,
labels and annotations, the resources and resize policies of its containers,
the pod-level resources and the status conditions.  A resource quantity is its
value, an exact rational.

`Library` collects the functions of other packages that the controller calls,
each with the documented behaviour the controller relies on.  `Pod.codec` is
the JSON form of a pod.
-/

namespace KubeStartupCPUBoost

/-- A resource quantity, by value. -/
abbrev Quantity := ℚ

/-- A point in time or a duration, in nanoseconds. -/
abbrev Time := Int

abbrev ResourceList := GoMap String Quantity

def resourceCPU : String := "cpu"

def resourceMemory : String := "memory"

/-- `ResourceList.Cpu`: the CPU amount, zero when there is none. -/
def cpuQuantity (resources : ResourceList) : Quantity :=
  (resources.lookup resourceCPU).getD 0

structure ResourceRequirements where
  requests : ResourceList
  limits : ResourceList
deriving DecidableEq

/-- Whether a container has to be restarted to resize a resource. -/
inductive ResizeRestartPolicy where
  | notRequired
  | restartContainer
deriving DecidableEq

structure ContainerResizePolicy where
  resourceName : String
  restartPolicy : ResizeRestartPolicy
deriving DecidableEq

structure Container where
  name : String
  resources : ResourceRequirements
  resizePolicy : List ContainerResizePolicy := []
deriving DecidableEq

structure PodCondition where
  type : String
  status : String
  lastTransitionTime : Time
deriving DecidableEq

structure ObjectMeta where
  name : String
  ns : String
  uid : String
  labels : StringMap
  annotations : StringMap
deriving DecidableEq

structure PodSpec where
  containers : List Container
  initContainers : List Container := []
  resources : Option ResourceRequirements := none
deriving DecidableEq

structure PodStatus where
  conditions : List PodCondition := []
deriving DecidableEq

structure Pod extends ObjectMeta, PodSpec, PodStatus
deriving DecidableEq

/-- The original CPU resources of the boosted containers, as recorded in a pod
annotation. -/
structure BoostPodAnnotation where
  boostTimestamp : Time
  initCPURequests : StringMap
  initCPULimits : StringMap
deriving DecidableEq

/-- Functions of other packages, with what the controller relies on:
quantities and annotations survive being written and read back, the merge
patch of two objects is their diff, and a selector is rejected exactly when it
is not well formed. -/
structure Library where
  quantityString : Quantity → String
  parseQuantity : String → Except String Quantity
  parseQuantity_quantityString : ∀ quantity,
    parseQuantity (quantityString quantity) = .ok quantity
  marshalAnnot : BoostPodAnnotation → String
  unmarshalAnnot : String → Except String BoostPodAnnotation
  unmarshalAnnot_marshalAnnot : ∀ annot,
    unmarshalAnnot (marshalAnnot annot) = .ok annot
  createMergePatch : Json → Json → Except String Json
  createMergePatch_eq : ∀ original updated : Json, original.IsObject → updated.IsObject →
    createMergePatch original updated = .ok (original.diff updated)
  validLabelKey : String → Bool
  validLabelValue : String → Bool
  labelSelectorAsSelector : LabelSelector → Except String Selector
  labelSelectorAsSelector_ok : ∀ selector : LabelSelector,
    selector.WellFormed validLabelKey validLabelValue →
      labelSelectorAsSelector selector = .ok selector.selects
  labelSelectorAsSelector_error : ∀ selector : LabelSelector,
    ¬ selector.WellFormed validLabelKey validLabelValue →
      ∃ message, labelSelectorAsSelector selector = .error message

variable (lib : Library)

/-- A member holding a text, a list or a map, left out when it is empty. -/
def textMember : JsonMember String :=
  JsonCodec.string.omitEmpty "" (· == "") (by simp)

def listMember {α : Type} (codec : JsonCodec α) : JsonMember (List α) :=
  codec.list.omitEmpty [] List.isEmpty (by simp)

def mapMember {α : Type} [DecidableEq α] (codec : JsonCodec α) :
    JsonMember (GoMap String α) :=
  codec.map.omitEmpty ∅ (fun values => decide (values = ∅)) (by simp)

def Library.quantityCodec : JsonCodec Quantity :=
  JsonCodec.text lib.quantityString (fun written => (lib.parseQuantity written).toOption)
    (fun quantity => by rw [lib.parseQuantity_quantityString]; rfl)

def ResourceRequirements.codec : JsonCodec ResourceRequirements :=
  JsonCodec.record
    (fun resources =>
      [("limits", (mapMember lib.quantityCodec).write resources.limits),
        ("requests", (mapMember lib.quantityCodec).write resources.requests)])
    (fun member => do
      let limits ← (mapMember lib.quantityCodec).decode (member "limits")
      let requests ← (mapMember lib.quantityCodec).decode (member "requests")
      return { requests, limits })
    (fun resources => by
      simp only [List.lookup_cons, String.reduceBEq, Option.bind_some,
        JsonMember.document_write, JsonMember.decode_encode, Option.bind_eq_bind,
        Option.pure_def])

def ResizeRestartPolicy.codec : JsonCodec ResizeRestartPolicy :=
  JsonCodec.text
    (fun
      | .notRequired => "NotRequired"
      | .restartContainer => "RestartContainer")
    (fun written =>
      if written = "NotRequired" then some .notRequired
      else if written = "RestartContainer" then some .restartContainer
      else none)
    (fun policy => by cases policy <;> decide)

def ContainerResizePolicy.codec : JsonCodec ContainerResizePolicy :=
  JsonCodec.record
    (fun policy =>
      [("resourceName", JsonCodec.string.required.write policy.resourceName),
        ("restartPolicy", ResizeRestartPolicy.codec.required.write policy.restartPolicy)])
    (fun member => do
      let resourceName ← JsonCodec.string.required.decode (member "resourceName")
      let restartPolicy ← ResizeRestartPolicy.codec.required.decode (member "restartPolicy")
      return { resourceName, restartPolicy })
    (fun policy => by
      simp only [List.lookup_cons, String.reduceBEq, Option.bind_some,
        JsonMember.document_write, JsonMember.decode_encode, Option.bind_eq_bind,
        Option.pure_def])

def Container.codec : JsonCodec Container :=
  JsonCodec.record
    (fun container =>
      [("name", JsonCodec.string.required.write container.name),
        ("resources", (ResourceRequirements.codec lib).required.write container.resources),
        ("resizePolicy", (listMember ContainerResizePolicy.codec).write container.resizePolicy)])
    (fun member => do
      let name ← JsonCodec.string.required.decode (member "name")
      let resources ← (ResourceRequirements.codec lib).required.decode (member "resources")
      let resizePolicy ← (listMember ContainerResizePolicy.codec).decode (member "resizePolicy")
      return { name, resources, resizePolicy })
    (fun container => by
      simp only [List.lookup_cons, String.reduceBEq, Option.bind_some,
        JsonMember.document_write, JsonMember.decode_encode, Option.bind_eq_bind,
        Option.pure_def])

def PodCondition.codec : JsonCodec PodCondition :=
  JsonCodec.record
    (fun condition =>
      [("type", JsonCodec.string.required.write condition.type),
        ("status", JsonCodec.string.required.write condition.status),
        ("lastTransitionTime", JsonCodec.int.required.write condition.lastTransitionTime)])
    (fun member => do
      let type ← JsonCodec.string.required.decode (member "type")
      let status ← JsonCodec.string.required.decode (member "status")
      let lastTransitionTime ← JsonCodec.int.required.decode (member "lastTransitionTime")
      return { type, status, lastTransitionTime })
    (fun condition => by
      simp only [List.lookup_cons, String.reduceBEq, Option.bind_some,
        JsonMember.document_write, JsonMember.decode_encode, Option.bind_eq_bind,
        Option.pure_def])

def ObjectMeta.codec : JsonCodec ObjectMeta :=
  JsonCodec.record
    (fun metadata =>
      [("name", textMember.write metadata.name),
        ("namespace", textMember.write metadata.ns),
        ("uid", textMember.write metadata.uid),
        ("labels", (mapMember JsonCodec.string).write metadata.labels),
        ("annotations", (mapMember JsonCodec.string).write metadata.annotations)])
    (fun member => do
      let name ← textMember.decode (member "name")
      let ns ← textMember.decode (member "namespace")
      let uid ← textMember.decode (member "uid")
      let labels ← (mapMember JsonCodec.string).decode (member "labels")
      let annotations ← (mapMember JsonCodec.string).decode (member "annotations")
      return { name, ns, uid, labels, annotations })
    (fun metadata => by
      simp only [List.lookup_cons, String.reduceBEq, Option.bind_some,
        JsonMember.document_write, JsonMember.decode_encode, Option.bind_eq_bind,
        Option.pure_def])

def PodSpec.codec : JsonCodec PodSpec :=
  JsonCodec.record
    (fun spec =>
      [("containers", (Container.codec lib).list.required.write spec.containers),
        ("initContainers", (listMember (Container.codec lib)).write spec.initContainers),
        ("resources", (ResourceRequirements.codec lib).optional.write spec.resources)])
    (fun member => do
      let containers ← (Container.codec lib).list.required.decode (member "containers")
      let initContainers ← (listMember (Container.codec lib)).decode (member "initContainers")
      let resources ← (ResourceRequirements.codec lib).optional.decode (member "resources")
      return { containers, initContainers, resources })
    (fun spec => by
      simp only [List.lookup_cons, String.reduceBEq, Option.bind_some,
        JsonMember.document_write, JsonMember.decode_encode, Option.bind_eq_bind,
        Option.pure_def])

def PodStatus.codec : JsonCodec PodStatus :=
  JsonCodec.record
    (fun status => [("conditions", (listMember PodCondition.codec).write status.conditions)])
    (fun member => do
      let conditions ← (listMember PodCondition.codec).decode (member "conditions")
      return { conditions })
    (fun status => by
      simp only [List.lookup_cons, String.reduceBEq, Option.bind_some,
        JsonMember.document_write, JsonMember.decode_encode, Option.bind_eq_bind,
        Option.pure_def])

def Pod.codec : JsonCodec Pod :=
  JsonCodec.record
    (fun pod =>
      [("metadata", ObjectMeta.codec.required.write pod.toObjectMeta),
        ("spec", (PodSpec.codec lib).required.write pod.toPodSpec),
        ("status", PodStatus.codec.required.write pod.toPodStatus)])
    (fun member => do
      let metadata ← ObjectMeta.codec.required.decode (member "metadata")
      let spec ← (PodSpec.codec lib).required.decode (member "spec")
      let status ← PodStatus.codec.required.decode (member "status")
      return ⟨metadata, spec, status⟩)
    (fun pod => by
      simp only [List.lookup_cons, String.reduceBEq, Option.bind_some,
        JsonMember.document_write, JsonMember.decode_encode, Option.bind_eq_bind,
        Option.pure_def])

end KubeStartupCPUBoost
