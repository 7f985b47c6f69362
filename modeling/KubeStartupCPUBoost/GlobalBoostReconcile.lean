import KubeStartupCPUBoost.BoostPolicies
import KubeStartupCPUBoost.CallProgram

/-!
# Reconciling a global boost

A global boost distributes a boost to every namespace its selector matches:
one child for each namespace that holds no boost of another owner.  The
reconciler is a program over the API calls it makes.  `Cluster.handle` answers
these calls from a cluster state, rejecting those that a fault pattern names.

Maps are ranged over in any order, and so are the lists the server returns.
-/

namespace KubeStartupCPUBoost

structure Namespace where
  name : String
  labels : StringMap
  deletionTimestamp : Option Time
deriving DecidableEq

structure GlobalStartupCPUBoostTemplate where
  selector : LabelSelector
  spec : StartupCPUBoostSpec
deriving DecidableEq

structure GlobalStartupCPUBoostSpec where
  namespaceSelector : LabelSelector
  template : GlobalStartupCPUBoostTemplate
deriving DecidableEq

structure StatusCondition where
  type : String
  status : String
  reason : String
  message : String
deriving DecidableEq

structure GlobalStartupCPUBoostStatus where
  namespaceCount : Int32 := 0
  activeNamespaces : List String := []
  skippedNamespaces : List String := []
  conditions : List StatusCondition := []
deriving DecidableEq

structure GlobalStartupCPUBoost where
  name : String
  uid : String
  finalizers : List String
  deletionTimestamp : Option Time
  spec : GlobalStartupCPUBoostSpec
  status : GlobalStartupCPUBoostStatus := {}
deriving DecidableEq

def managedByGlobalBoostLabel : String := "autoscaling.x-k8s.io/managed-by-global"

def globalBoostUidKey : String := "autoscaling.x-k8s.io/global-boost-uid"

def globalBoostChildPrefix : String := "global-"

def globalBoostFinalizer : String := "autoscaling.x-k8s.io/global-boost-cleanup"

abbrev BoostKey := String × String

def StartupCPUBoost.key (boost : StartupCPUBoost) : BoostKey := (boost.ns, boost.name)

/-- The global boost a boost is managed by, the empty name if there is none. -/
def StartupCPUBoost.managedBy (boost : StartupCPUBoost) : String :=
  (boost.labels.lookup managedByGlobalBoostLabel).getD ""

inductive ApiErrorReason where
  | notFound
  | alreadyExists
  | conflict
  | other
deriving DecidableEq

structure ApiError where
  reason : ApiErrorReason
  message : String
deriving DecidableEq

/-- The places from which a boost is deleted. -/
inductive DeleteSite where
  | skippedNamespace
  | staleChild
  | allChildren
deriving DecidableEq

inductive GlobalCall where
  | getGlobal (name : String)
  | updateGlobal (boost : GlobalStartupCPUBoost)
  | updateGlobalStatus (boost : GlobalStartupCPUBoost)
  | listNamespaces (selector : LabelSelector)
  | listBoosts (ns : String)
  | listManagedBoosts (globalBoostName : String)
  | getBoost (ns name : String)
  | createBoost (boost : StartupCPUBoost)
  | updateBoost (boost : StartupCPUBoost)
  | deleteBoost (site : DeleteSite) (key : BoostKey)
deriving DecidableEq

def GlobalCall.Payload : GlobalCall → Type
  | getGlobal _ => GlobalStartupCPUBoost
  | listNamespaces _ => List Namespace
  | listBoosts _ => List StartupCPUBoost
  | listManagedBoosts _ => List StartupCPUBoost
  | getBoost _ _ => StartupCPUBoost
  | _ => Unit

abbrev GlobalProgram := CallProgram GlobalCall fun call => Except ApiError call.Payload

namespace GlobalCall

open CallProgram (request)

def sendGetGlobal (name : String) : GlobalProgram (Except ApiError GlobalStartupCPUBoost) :=
  request (getGlobal name)

def sendUpdateGlobal (boost : GlobalStartupCPUBoost) : GlobalProgram (Except ApiError Unit) :=
  request (updateGlobal boost)

def sendUpdateGlobalStatus (boost : GlobalStartupCPUBoost) :
    GlobalProgram (Except ApiError Unit) :=
  request (updateGlobalStatus boost)

def sendListNamespaces (selector : LabelSelector) :
    GlobalProgram (Except ApiError (List Namespace)) :=
  request (listNamespaces selector)

def sendListBoosts (ns : String) : GlobalProgram (Except ApiError (List StartupCPUBoost)) :=
  request (listBoosts ns)

def sendListManagedBoosts (globalBoostName : String) :
    GlobalProgram (Except ApiError (List StartupCPUBoost)) :=
  request (listManagedBoosts globalBoostName)

def sendGetBoost (ns name : String) : GlobalProgram (Except ApiError StartupCPUBoost) :=
  request (getBoost ns name)

def sendCreateBoost (boost : StartupCPUBoost) : GlobalProgram (Except ApiError Unit) :=
  request (createBoost boost)

def sendUpdateBoost (boost : StartupCPUBoost) : GlobalProgram (Except ApiError Unit) :=
  request (updateBoost boost)

def sendDeleteBoost (site : DeleteSite) (key : BoostKey) :
    GlobalProgram (Except ApiError Unit) :=
  request (deleteBoost site key)

end GlobalCall

/-- Requeue or not, when there is no error. -/
structure ReconcileResult where
  requeue : Bool := false
deriving DecidableEq

open GlobalCall

def childBoostName (globalBoostName : String) : String :=
  globalBoostChildPrefix ++ globalBoostName

def buildChildBoost (globalBoost : GlobalStartupCPUBoost) (ns childName : String) :
    StartupCPUBoost where
  name := childName
  ns := ns
  labels := (∅ : StringMap).insert managedByGlobalBoostLabel globalBoost.name
  annotations := (∅ : StringMap).insert globalBoostUidKey globalBoost.uid
  selector := globalBoost.spec.template.selector
  spec := globalBoost.spec.template.spec

def hasUnmanagedBoosts (ns globalBoostName : String) : GlobalProgram (Except ApiError Bool) := do
  match ← sendListBoosts ns with
  | .error err => return .error err
  | .ok boosts => return .ok (boosts.any fun boost => boost.managedBy ≠ globalBoostName)

def createChild (desired : StartupCPUBoost) : GlobalProgram (Except String Unit) := do
  match ← sendCreateBoost desired with
  | .error err => return .error ("failed to create child boost: " ++ err.message)
  | .ok () => return .ok ()

def ensureChild (globalBoost : GlobalStartupCPUBoost) (ns childName : String) :
    GlobalProgram (Except String Unit) := do
  let desired := buildChildBoost globalBoost ns childName
  match ← sendGetBoost ns childName with
  | .error err =>
      if err.reason = .notFound then createChild desired
      else return .error ("failed to get child boost: " ++ err.message)
  | .ok existing =>
      if existing.managedBy ≠ globalBoost.name then
        return .error ("child boost " ++ ns ++ "/" ++ childName ++
          " exists but is not managed by this global boost")
      else if existing.selector ≠ desired.selector ∨ existing.spec ≠ desired.spec then
        match ← sendUpdateBoost
          { existing with selector := desired.selector, spec := desired.spec } with
        | .error err => return .error ("failed to update child boost: " ++ err.message)
        | .ok () => return .ok ()
      else return .ok ()

/-- Errors are logged and dropped. -/
def deleteChildIfExists (childName ns : String) : GlobalProgram Unit := do
  match ← sendGetBoost ns childName with
  | .error _ => return ()
  | .ok existing =>
      match existing.labels.lookup managedByGlobalBoostLabel with
      | none => return ()
      | some _ =>
          let _ ← sendDeleteBoost .skippedNamespace existing.key
          return ()

inductive NamespaceOutcome where
  | active
  | skipped
  | failed
deriving DecidableEq

/-- The body of the loop over the matching namespaces. -/
def processNamespace (globalBoost : GlobalStartupCPUBoost) (childName ns : String) :
    GlobalProgram NamespaceOutcome := do
  match ← hasUnmanagedBoosts ns globalBoost.name with
  | .error _ => return .failed
  | .ok true =>
      deleteChildIfExists childName ns
      return .skipped
  | .ok false =>
      match ← ensureChild globalBoost ns childName with
      | .error _ => return .failed
      | .ok () => return .active

/-- The loop over the matching namespaces, with the active and the skipped ones
so far. -/
def processNamespaces (globalBoost : GlobalStartupCPUBoost) (childName : String) :
    List String → (active skipped : List String) → GlobalProgram (List String × List String)
  | [], active, skipped => return (active, skipped)
  | ns :: rest, active, skipped => do
      match ← processNamespace globalBoost childName ns with
      | .active => processNamespaces globalBoost childName rest (active ++ [ns]) skipped
      | .skipped => processNamespaces globalBoost childName rest active (skipped ++ [ns])
      | .failed => processNamespaces globalBoost childName rest active skipped

/-- The loop over the managed boosts; errors are logged and dropped. -/
def deleteStale (active : List String) : List StartupCPUBoost → GlobalProgram Unit
  | [] => return ()
  | boost :: rest => do
      if boost.ns ∈ active then deleteStale active rest
      else
        let _ ← sendDeleteBoost .staleChild boost.key
        deleteStale active rest

def cleanupStaleChildren (globalBoostName : String) (activeNamespaces : List String) :
    GlobalProgram (Except String Unit) := do
  match ← sendListManagedBoosts globalBoostName with
  | .error err => return .error ("failed to list managed boosts: " ++ err.message)
  | .ok boosts =>
      deleteStale activeNamespaces boosts
      return .ok ()

/-- The loop of `deleteAllChildren`, which stops at the first error. -/
def deleteBoosts : List StartupCPUBoost → GlobalProgram (Except String Unit)
  | [] => return .ok ()
  | boost :: rest => do
      match ← sendDeleteBoost .allChildren boost.key with
      | .ok () => deleteBoosts rest
      | .error err =>
          if err.reason = .notFound then deleteBoosts rest
          else return .error ("failed to delete child boost " ++ boost.ns ++ "/" ++ boost.name ++
            ": " ++ err.message)

def deleteAllChildren (globalBoostName : String) : GlobalProgram (Except String Unit) := do
  match ← sendListManagedBoosts globalBoostName with
  | .error err => return .error ("failed to list managed boosts: " ++ err.message)
  | .ok boosts => deleteBoosts boosts

/-- `meta.SetStatusCondition`: replace the condition of this type, or add it. -/
def setStatusCondition (condition : StatusCondition) :
    List StatusCondition → List StatusCondition
  | [] => [condition]
  | existing :: rest =>
      if existing.type = condition.type then condition :: rest
      else existing :: setStatusCondition condition rest

def activeCondition (activeNamespaces : List String) : StatusCondition :=
  if activeNamespaces.length = 0 then
    { type := "Active", status := "False", reason := "NotReady"
      message := "GlobalStartupCPUBoost is not active" }
  else
    { type := "Active", status := "True", reason := "Ready"
      message := "Distributing StartupCPUBoost to matching namespaces" }

def updateStatus (globalBoost : GlobalStartupCPUBoost)
    (activeNamespaces skippedNamespaces : List String) :
    GlobalProgram (Except String ReconcileResult) := do
  let status : GlobalStartupCPUBoostStatus :=
    { namespaceCount := Int32.ofNat activeNamespaces.length
      activeNamespaces
      skippedNamespaces
      conditions :=
        setStatusCondition (activeCondition activeNamespaces) globalBoost.status.conditions }
  if status ≠ globalBoost.status then
    match ← sendUpdateGlobalStatus { globalBoost with status } with
    | .ok () => return .ok {}
    | .error err =>
        if err.reason = .conflict then return .ok { requeue := true }
        else if err.reason = .notFound then return .ok {}
        else return .error err.message
  else return .ok {}

variable (lib : Library)

def desiredNamespaces (namespaces : List Namespace) : Finset String :=
  ((namespaces.filter fun ns => ns.deletionTimestamp = none).map Namespace.name).toFinset

def sortStrings (names : List String) : List String :=
  names.mergeSort fun first second => first ≤ second

def reconcile (order : RangeOrder String) (globalBoost : GlobalStartupCPUBoost) :
    GlobalProgram (Except String ReconcileResult) := do
  match lib.labelSelectorAsSelector globalBoost.spec.namespaceSelector with
  | .error message => return .error message
  | .ok _ =>
      match ← sendListNamespaces globalBoost.spec.namespaceSelector with
      | .error err => return .error err.message
      | .ok namespaces =>
          let (active, skipped) ← processNamespaces globalBoost (childBoostName globalBoost.name)
            (order.list (desiredNamespaces namespaces)) [] []
          let _ ← cleanupStaleChildren globalBoost.name active
          updateStatus globalBoost (sortStrings active) (sortStrings skipped)

def handleDeletion (globalBoost : GlobalStartupCPUBoost) :
    GlobalProgram (Except String ReconcileResult) := do
  if globalBoostFinalizer ∉ globalBoost.finalizers then return .ok {}
  else
    match ← deleteAllChildren globalBoost.name with
    | .error message => return .error message
    | .ok () =>
        let finalizers := globalBoost.finalizers.filter fun name => name ≠ globalBoostFinalizer
        match ← sendUpdateGlobal { globalBoost with finalizers } with
        | .error err => return .error err.message
        | .ok () => return .ok {}

/-- `Reconcile`, for the global boost of a given name. -/
def reconcileGlobal (order : RangeOrder String) (name : String) :
    GlobalProgram (Except String ReconcileResult) := do
  match ← sendGetGlobal name with
  | .error err =>
      if err.reason = .notFound then return .ok {} else return .error err.message
  | .ok globalBoost =>
      if globalBoost.deletionTimestamp ≠ none then handleDeletion globalBoost
      else if globalBoostFinalizer ∉ globalBoost.finalizers then
        let finalizers := globalBoost.finalizers ++ [globalBoostFinalizer]
        match ← sendUpdateGlobal { globalBoost with finalizers } with
        | .error err => return .error err.message
        | .ok () => return .ok { requeue := true }
      else reconcile lib order globalBoost

structure Cluster where
  namespaces : KeyedMap String Namespace Namespace.name
  boosts : KeyedMap BoostKey StartupCPUBoost StartupCPUBoost.key
  globals : KeyedMap String GlobalStartupCPUBoost GlobalStartupCPUBoost.name

/-- The orders in which the server lists its objects. -/
structure ListOrders where
  namespaces : RangeOrder String
  boosts : RangeOrder BoostKey

namespace Cluster

/-- The answer to a call that is not rejected, and the cluster after it.  A
global boost whose last finalizer is removed while it is being deleted is
gone; an update does not take a deletion back, and the status is only written
through the status call. -/
def answer (orders : ListOrders) :
    (call : GlobalCall) → Cluster → Except ApiError call.Payload × Cluster
  | .getGlobal name, cluster =>
      match cluster.globals.get name with
      | none => (.error ⟨.notFound, "not found"⟩, cluster)
      | some boost => (.ok boost, cluster)
  | .updateGlobal sent, cluster =>
      match cluster.globals.get sent.name with
      | none => (.error ⟨.notFound, "not found"⟩, cluster)
      | some stored =>
          if stored.deletionTimestamp ≠ none ∧ sent.finalizers = [] then
            (.ok (), { cluster with globals := cluster.globals.remove sent.name })
          else
            (.ok (), { cluster with
              globals := cluster.globals.put
                { sent with
                  deletionTimestamp := stored.deletionTimestamp
                  status := stored.status } })
  | .updateGlobalStatus sent, cluster =>
      match cluster.globals.get sent.name with
      | none => (.error ⟨.notFound, "not found"⟩, cluster)
      | some stored =>
          (.ok (), { cluster with
            globals := cluster.globals.put { stored with status := sent.status } })
  | .listNamespaces selector, cluster =>
      (.ok ((cluster.namespaces.values orders.namespaces).filter fun ns =>
        selector.selects ns.labels), cluster)
  | .listBoosts ns, cluster =>
      (.ok ((cluster.boosts.values orders.boosts).filter fun boost => boost.ns = ns), cluster)
  | .listManagedBoosts globalBoostName, cluster =>
      (.ok ((cluster.boosts.values orders.boosts).filter fun boost =>
        boost.labels.lookup managedByGlobalBoostLabel = some globalBoostName), cluster)
  | .getBoost ns name, cluster =>
      match cluster.boosts.get (ns, name) with
      | none => (.error ⟨.notFound, "not found"⟩, cluster)
      | some boost => (.ok boost, cluster)
  | .createBoost boost, cluster =>
      match cluster.boosts.get boost.key with
      | some _ => (.error ⟨.alreadyExists, "already exists"⟩, cluster)
      | none => (.ok (), { cluster with boosts := cluster.boosts.put boost })
  | .updateBoost boost, cluster =>
      match cluster.boosts.get boost.key with
      | none => (.error ⟨.notFound, "not found"⟩, cluster)
      | some _ => (.ok (), { cluster with boosts := cluster.boosts.put boost })
  | .deleteBoost _ key, cluster =>
      match cluster.boosts.get key with
      | none => (.error ⟨.notFound, "not found"⟩, cluster)
      | some _ => (.ok (), { cluster with boosts := cluster.boosts.remove key })

/-- The answer under a pattern of faults: a call the pattern names is rejected
and changes nothing. -/
def handle (orders : ListOrders) (faults : GlobalCall → Option ApiError) (call : GlobalCall)
    (cluster : Cluster) : Except ApiError call.Payload × Cluster :=
  match faults call with
  | some err => (.error err, cluster)
  | none => answer orders call cluster

section Calls

variable (orders : ListOrders) (faults : GlobalCall → Option ApiError) (cluster : Cluster)

theorem run_sendGetGlobal (name : String) :
    (sendGetGlobal name).run (handle orders faults) cluster =
      match faults (.getGlobal name) with
      | some err => (.error err, cluster)
      | none =>
          match cluster.globals.get name with
          | none => (.error ⟨.notFound, "not found"⟩, cluster)
          | some boost => (.ok boost, cluster) :=
  rfl

theorem run_sendUpdateGlobal (sent : GlobalStartupCPUBoost) :
    (sendUpdateGlobal sent).run (handle orders faults) cluster =
      match faults (.updateGlobal sent) with
      | some err => (.error err, cluster)
      | none =>
          match cluster.globals.get sent.name with
          | none => (.error ⟨.notFound, "not found"⟩, cluster)
          | some stored =>
              if stored.deletionTimestamp ≠ none ∧ sent.finalizers = [] then
                (.ok (), { cluster with globals := cluster.globals.remove sent.name })
              else
                (.ok (), { cluster with
                  globals := cluster.globals.put
                    { sent with
                      deletionTimestamp := stored.deletionTimestamp
                      status := stored.status } }) :=
  rfl

theorem run_sendUpdateGlobalStatus (sent : GlobalStartupCPUBoost) :
    (sendUpdateGlobalStatus sent).run (handle orders faults) cluster =
      match faults (.updateGlobalStatus sent) with
      | some err => (.error err, cluster)
      | none =>
          match cluster.globals.get sent.name with
          | none => (.error ⟨.notFound, "not found"⟩, cluster)
          | some stored =>
              (.ok (), { cluster with
                globals := cluster.globals.put { stored with status := sent.status } }) :=
  rfl

theorem run_sendListNamespaces (selector : LabelSelector) :
    (sendListNamespaces selector).run (handle orders faults) cluster =
      match faults (.listNamespaces selector) with
      | some err => (.error err, cluster)
      | none =>
          (.ok ((cluster.namespaces.values orders.namespaces).filter fun ns =>
            selector.selects ns.labels), cluster) :=
  rfl

theorem run_sendListBoosts (ns : String) :
    (sendListBoosts ns).run (handle orders faults) cluster =
      match faults (.listBoosts ns) with
      | some err => (.error err, cluster)
      | none =>
          (.ok ((cluster.boosts.values orders.boosts).filter fun boost => boost.ns = ns),
            cluster) :=
  rfl

theorem run_sendListManagedBoosts (globalBoostName : String) :
    (sendListManagedBoosts globalBoostName).run (handle orders faults) cluster =
      match faults (.listManagedBoosts globalBoostName) with
      | some err => (.error err, cluster)
      | none =>
          (.ok ((cluster.boosts.values orders.boosts).filter fun boost =>
            boost.labels.lookup managedByGlobalBoostLabel = some globalBoostName), cluster) :=
  rfl

theorem run_sendGetBoost (ns name : String) :
    (sendGetBoost ns name).run (handle orders faults) cluster =
      match faults (.getBoost ns name) with
      | some err => (.error err, cluster)
      | none =>
          match cluster.boosts.get (ns, name) with
          | none => (.error ⟨.notFound, "not found"⟩, cluster)
          | some boost => (.ok boost, cluster) :=
  rfl

theorem run_sendCreateBoost (boost : StartupCPUBoost) :
    (sendCreateBoost boost).run (handle orders faults) cluster =
      match faults (.createBoost boost) with
      | some err => (.error err, cluster)
      | none =>
          match cluster.boosts.get boost.key with
          | some _ => (.error ⟨.alreadyExists, "already exists"⟩, cluster)
          | none => (.ok (), { cluster with boosts := cluster.boosts.put boost }) :=
  rfl

theorem run_sendUpdateBoost (boost : StartupCPUBoost) :
    (sendUpdateBoost boost).run (handle orders faults) cluster =
      match faults (.updateBoost boost) with
      | some err => (.error err, cluster)
      | none =>
          match cluster.boosts.get boost.key with
          | none => (.error ⟨.notFound, "not found"⟩, cluster)
          | some _ => (.ok (), { cluster with boosts := cluster.boosts.put boost }) :=
  rfl

theorem run_sendDeleteBoost (site : DeleteSite) (key : BoostKey) :
    (sendDeleteBoost site key).run (handle orders faults) cluster =
      match faults (.deleteBoost site key) with
      | some err => (.error err, cluster)
      | none =>
          match cluster.boosts.get key with
          | none => (.error ⟨.notFound, "not found"⟩, cluster)
          | some _ => (.ok (), { cluster with boosts := cluster.boosts.remove key }) :=
  rfl

end Calls

end Cluster

end KubeStartupCPUBoost
