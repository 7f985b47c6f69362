import KubeStartupCPUBoost.ConcurrentUpdates
import KubeStartupCPUBoost.ObjectInvariants
import KubeStartupCPUBoost.PodRouting

/-!
# The versions of a boosted pod

From the webhook's answer on, a boosted pod is in one of four versions at the
server: its containers are the boosted or the original ones, and it has or has no
boost label and annotation.  The controller's objects for it are such versions,
too, in whatever order its calls fail, its boosts come and go and the controller
restarts.  Each of the two marks only ever changes in one direction
(`lifetime_moves_forward`), and with both of them the pod is the original one.
-/

namespace KubeStartupCPUBoost

/-- How far the revert of a pod has come. -/
structure Progress where
  restored : Bool
  unlabelled : Bool
deriving DecidableEq

namespace Progress

/-- No mark is taken back. -/
instance preorderProgress : Preorder Progress where
  le first second := (first.restored = true → second.restored = true) ∧
    (first.unlabelled = true → second.unlabelled = true)
  le_refl _ := ⟨id, id⟩
  le_trans _ _ _ first second := ⟨second.1 ∘ first.1, second.2 ∘ first.2⟩

theorem restored_le (progress : Progress) : progress ≤ { progress with restored := true } :=
  ⟨fun _ => rfl, id⟩

theorem unlabelled_le (progress : Progress) : progress ≤ { progress with unlabelled := true } :=
  ⟨id, fun _ => rfl⟩

def boosted : Progress := ⟨false, false⟩

def reverted : Progress := ⟨true, true⟩

theorem le_reverted (progress : Progress) : progress ≤ reverted :=
  ⟨fun _ => rfl, fun _ => rfl⟩

end Progress

/-- A pod that the webhook boosts: as it was submitted, it has distinct container names
and neither boost label nor annotation. -/
structure BoostedPod (lib : Library) where
  handler : PodCPUBoostHandler
  now : Time
  boost : StartupCPUBoostImpl
  original : Pod
  named : original.name ≠ ""
  distinct : (original.containers.map Container.name).Nodup
  unlabelled : original.labels.lookup boostLabelKey = none
  unannotated : original.annotations.lookup boostAnnotationKey = none
  boosts : handler.Boosts lib now boost original

namespace BoostedPod

variable {lib : Library} (boosted : BoostedPod lib)

def boosting : List Container × BoostPodAnnotation :=
  boosted.handler.boostContainers lib boosted.boost
    (computePodQOS boosted.original boosted.handler.podLevelResourcesEnabled) boosted.original []
    boosted.original.containers (newBoostAnnot boosted.now)

def answer : Pod :=
  boosted.handler.boostContainerResources lib boosted.now boosted.boost boosted.original

def key : PodKey := boosted.original.key

/-- The pod with its containers restored or not, and its label and annotation removed or
not. -/
def version (progress : Progress) : Pod :=
  { boosted.original with
    containers :=
      if progress.restored then boosted.original.containers else boosted.answer.containers
    labels := if progress.unlabelled then boosted.original.labels else boosted.answer.labels
    annotations :=
      if progress.unlabelled then boosted.original.annotations else boosted.answer.annotations }

/-- A pod is a version up to its status. -/
def IsVersion (progress : Progress) (pod : Pod) : Prop :=
  pod = { boosted.version progress with conditions := pod.conditions }

/-- What the webhook changes. -/
theorem answer_eq :
    boosted.answer =
      { boosted.original with
        containers := boosted.boosting.1
        annotations := boosted.original.annotations.insert boostAnnotationKey
          (lib.marshalAnnot boosted.boosting.2)
        labels := boosted.original.labels.insert boostLabelKey boosted.boost.name } := by
  simp only [answer, PodCPUBoostHandler.boostContainerResources]
  exact if_pos boosted.boosts

@[simp]
theorem version_boosted : boosted.version .boosted = boosted.answer := by
  rw [version, answer_eq]
  rfl

/-- The annotation records the original containers. -/
theorem boosting_restored :
    Readable lib boosted.boosting.2 ∧
      boosted.boosting.1.map (restoredContainer lib boosted.boosting.2) =
        boosted.original.containers := by
  obtain ⟨readable, containers, visited, restored⟩ :=
    boosted.handler.boostContainers_restored lib boosted.boost
      (computePodQOS boosted.original boosted.handler.podLevelResourcesEnabled) boosted.original []
      boosted.original.containers (newBoostAnnot boosted.now)
      (fun _ _ => ⟨Finmap.lookup_empty _, Finmap.lookup_empty _⟩) boosted.distinct
      ⟨fun _ _ found => absurd found (by simp [newBoostAnnot]),
        fun _ _ found => absurd found (by simp [newBoostAnnot])⟩
  rw [List.nil_append] at visited
  refine ⟨readable, ?_⟩
  rw [boosting, visited]
  exact restored

section Mutations

variable {boosted} {progress : Progress} {pod : Pod}

theorem IsVersion.key_eq (isVersion : boosted.IsVersion progress pod) : pod.key = boosted.key := by
  rw [isVersion]
  rfl

theorem IsVersion.uid_eq (isVersion : boosted.IsVersion progress pod) :
    pod.uid = boosted.original.uid := by
  rw [isVersion]
  rfl

/-- Only the status of a pod is no part of its version. -/
theorem IsVersion.setConditions (isVersion : boosted.IsVersion progress pod)
    (conditions : List PodCondition) :
    boosted.IsVersion progress { pod with conditions } := by
  unfold IsVersion at isVersion ⊢
  rw [isVersion]

/-- The restored containers are the original ones in every version. -/
theorem IsVersion.restoredContainers (isVersion : boosted.IsVersion progress pod) :
    pod.containers.map (restoredContainer lib boosted.boosting.2) =
      boosted.original.containers := by
  have restored := boosted.boosting_restored.2
  have again : boosted.original.containers.map (restoredContainer lib boosted.boosting.2) =
      boosted.original.containers := by
    rw [← restored, List.map_map]
    apply List.map_congr_left
    intro container _
    exact restoredContainer_restoredContainer lib _ container
  rw [isVersion]
  simp only [version, answer_eq]
  cases progress.restored with
  | false => exact restored
  | true => exact again

theorem IsVersion.annot (isVersion : boosted.IsVersion progress pod) :
    boostAnnotationFromPod lib pod =
      if progress.unlabelled then .error "boost annotation not found"
      else .ok boosted.boosting.2 := by
  rw [isVersion]
  simp only [boostAnnotationFromPod, version, answer_eq]
  cases progress.unlabelled with
  | false =>
      simp only [Bool.false_eq_true, if_false, Finmap.lookup_insert]
      exact lib.unmarshalAnnot_marshalAnnot _
  | true => simp only [if_true, boosted.unannotated]

/-- Restoring the containers of a version. -/
theorem IsVersion.setContainers (isVersion : boosted.IsVersion progress pod) :
    boosted.IsVersion { progress with restored := true }
      { pod with containers := boosted.original.containers } := by
  unfold IsVersion at isVersion ⊢
  rw [isVersion]
  rfl

/-- Removing label and annotation. -/
theorem IsVersion.labelsReverted (isVersion : boosted.IsVersion progress pod) :
    boosted.IsVersion { progress with unlabelled := true } (revertBoostLabels pod).1 := by
  have labels : pod.labels.erase boostLabelKey = boosted.original.labels := by
    rw [isVersion]
    simp only [version, answer_eq]
    cases progress.unlabelled with
    | false => exact GoMap.erase_insert_of_lookup_none boosted.unlabelled
    | true => exact GoMap.erase_of_lookup_none boosted.unlabelled
  have annotations : pod.annotations.erase boostAnnotationKey = boosted.original.annotations := by
    rw [isVersion]
    simp only [version, answer_eq]
    cases progress.unlabelled with
    | false => exact GoMap.erase_insert_of_lookup_none boosted.unannotated
    | true => exact GoMap.erase_of_lookup_none boosted.unannotated
  unfold IsVersion at isVersion ⊢
  simp only [revertBoostLabels, labels, annotations]
  rw [isVersion]
  rfl

theorem IsVersion.names (isVersion : boosted.IsVersion progress pod) :
    pod.containers.map Container.name = boosted.original.containers.map Container.name := by
  rw [← isVersion.restoredContainers, List.map_map]
  rfl

/-- Restoring the resources of a version, as far as its annotation allows. -/
theorem IsVersion.resourcesReverted (isVersion : boosted.IsVersion progress pod) :
    if progress.unlabelled then (revertBoostResources lib pod).1 = pod ∧
      (revertBoostResources lib pod).2 ≠ .ok ()
    else revertBoostResources lib pod =
      ({ pod with containers := boosted.original.containers }, .ok ()) := by
  have annot := isVersion.annot
  cases unlabelled : progress.unlabelled with
  | true =>
      rw [unlabelled, if_pos rfl] at annot
      simp only [if_true, revertBoostResources, annot]
      exact ⟨trivial, by simp⟩
  | false =>
      rw [unlabelled] at annot
      rw [if_neg (by simp), revertBoostResources_of_readable lib annot boosted.boosting_restored.1,
        restoredPod, isVersion.restoredContainers]

theorem IsVersion.resourcesReverted_fst (isVersion : boosted.IsVersion progress pod) :
    ∃ progress', boosted.IsVersion progress' (revertBoostResources lib pod).1 := by
  have reverted := isVersion.resourcesReverted
  cases unlabelled : progress.unlabelled with
  | true =>
      rw [unlabelled, if_pos rfl] at reverted
      rw [reverted.1]
      exact ⟨progress, isVersion⟩
  | false =>
      rw [unlabelled, if_neg (by simp)] at reverted
      rw [reverted]
      exact ⟨_, isVersion.setContainers⟩

end Mutations

section Calls

variable {boosted} {progress storedProgress : Progress} {pod stored : Pod}

theorem IsVersion.readable (isVersion : boosted.IsVersion progress pod) :
    Readable lib (recordedAnnot lib pod) := by
  rw [recordedAnnot, isVersion.annot]
  cases progress.unlabelled with
  | true => exact ⟨fun _ _ found => absurd found (by simp), fun _ _ found => absurd found (by simp)⟩
  | false => exact boosted.boosting_restored.1

theorem IsVersion.containersResized (isVersion : boosted.IsVersion progress pod)
    (storedVersion : boosted.IsVersion storedProgress stored) :
    resizedContainers lib (recordedAnnot lib pod) pod stored = stored.containers ∨
      resizedContainers lib (recordedAnnot lib pod) pod stored = boosted.original.containers := by
  unfold resizedContainers
  by_cases same : pod.containers.map (restoredContainer lib (recordedAnnot lib pod)) =
      pod.containers
  · exact .inl (if_pos same)
  · refine .inr ((if_neg same).trans ?_)
    rw [recordedAnnot, isVersion.annot] at same ⊢
    cases unlabelled : progress.unlabelled with
    | true =>
        rw [unlabelled] at same
        exact absurd (List.map_id'' (restoredContainer_of_nothing lib) _) same
    | false =>
        simp only [Bool.false_eq_true, if_false]
        rw [isVersion.restoredContainers, ← storedVersion.restoredContainers]
        exact ApiServer.zipWith_resources_map (fun _ => rfl) stored.containers

theorem IsVersion.resized (isVersion : boosted.IsVersion progress pod)
    (storedVersion : boosted.IsVersion storedProgress stored) :
    ∃ mutated patch updated progress', revertBoostResourcesPatch lib pod = (mutated, .ok patch) ∧
      ApiServer.resized lib patch stored = .ok updated ∧ storedProgress ≤ progress' ∧
      boosted.IsVersion progress' updated := by
  obtain ⟨mutated, patch, built, accepted⟩ := resized_revertBoostResourcesPatch lib
    (storedVersion.names.trans isVersion.names.symm) isVersion.readable
  rcases isVersion.containersResized storedVersion with same | original
  · rw [same] at accepted
    exact ⟨mutated, patch, _, storedProgress, built, accepted, le_refl _, storedVersion⟩
  · rw [original] at accepted
    exact ⟨mutated, patch, _, _, built, accepted, storedProgress.restored_le,
      storedVersion.setContainers⟩

/-- What the calls of a revert leave, of the object and at the server. -/
structure Advances (boosted : BoostedPod lib) (before : Progress)
    (outcome : CallOutcome ApiServer) : Prop where
  object : ∃ progress, boosted.IsVersion progress outcome.pod
  stored : ∃ progress pod, before ≤ progress ∧
    outcome.server.pods.lookup boosted.key = some pod ∧ boosted.IsVersion progress pod

variable (order : RangeOrder PodKey) {server : ApiServer}

theorem advances_updateBoostPod (isVersion : boosted.IsVersion progress pod)
    (present : server.pods.lookup boosted.key = some stored)
    (storedVersion : boosted.IsVersion storedProgress stored) :
    boosted.Advances storedProgress
      (updateBoostPod lib (ApiServer.podClient lib order) pod server) := by
  obtain ⟨mutated, patch, updated, progress', built, resizes, later, updatedVersion⟩ :=
    isVersion.resized storedVersion
  have sameKey : updated.key = pod.key := updatedVersion.key_eq.trans isVersion.key_eq.symm
  have object : mutated = (revertBoostResources lib pod).1 := by
    rw [← revertBoostResourcesPatch_eq, built]
  rw [← isVersion.key_eq] at present
  obtain ⟨-, left, leftStored⟩ := updateBoostPod_outcome lib order
    (!server.faults.headD false, !server.faults.tail.headD false) (Bool.not_not _).symm
    (Bool.not_not _).symm present built resizes sameKey
  rw [isVersion.key_eq] at leftStored
  refine ⟨?_, ?_⟩
  · rw [left]
    split
    · exact ⟨_, updatedVersion.labelsReverted⟩
    · rw [object]
      exact isVersion.resourcesReverted_fst
  · split at leftStored
    · split at leftStored
      · exact ⟨_, _, le_trans later progress'.unlabelled_le, leftStored,
          updatedVersion.labelsReverted⟩
      · exact ⟨_, _, later, leftStored, updatedVersion⟩
    · exact ⟨_, _, le_refl _, leftStored, storedVersion⟩

theorem advances_updateBoostPodLegacy (isVersion : boosted.IsVersion progress pod)
    (present : server.pods.lookup boosted.key = some stored)
    (storedVersion : boosted.IsVersion storedProgress stored) :
    boosted.Advances storedProgress
      (updateBoostPodLegacy lib (ApiServer.podClient lib order) pod server) := by
  have reverted := isVersion.resourcesReverted
  cases unlabelled : progress.unlabelled with
  | true =>
      rw [unlabelled, if_pos rfl] at reverted
      obtain ⟨same, failed⟩ := reverted
      simp only [updateBoostPodLegacy, revertResourceBoost]
      cases resources : revertBoostResources lib pod with
      | mk restored result =>
          rw [resources] at same failed
          cases result with
          | ok => exact absurd rfl failed
          | error message =>
              rw [← same] at isVersion
              exact ⟨⟨progress, isVersion⟩, storedProgress, stored, le_refl _, present,
                storedVersion⟩
  | false =>
      rw [unlabelled, if_neg (by simp)] at reverted
      have sentVersion := isVersion.setContainers.labelsReverted
      have updates : (ApiServer.podClient lib order).update
          (revertBoostLabels { pod with containers := boosted.original.containers }).1 server =
            server.call boosted.key (ApiServer.replaced
              (revertBoostLabels { pod with containers := boosted.original.containers }).1) := by
        rw [← sentVersion.key_eq]
        rfl
      have reverts : revertResourceBoost lib pod =
          ((revertBoostLabels { pod with containers := boosted.original.containers }).1,
            .ok ()) := by
        simp only [revertResourceBoost, reverted]
        rfl
      simp only [updateBoostPodLegacy, reverts, updates]
      generalize (revertBoostLabels { pod with containers := boosted.original.containers }).1 = sent
        at sentVersion
      have sameUid : sent.uid = stored.uid := sentVersion.uid_eq.trans storedVersion.uid_eq.symm
      have updatedVersion := sentVersion.setConditions stored.conditions
      cases fault : server.faults.headD false with
      | true =>
          rw [ApiServer.call_of_fault fault]
          exact ⟨⟨_, sentVersion⟩, storedProgress, stored, le_refl _, present, storedVersion⟩
      | false =>
          rw [ApiServer.call_of_accepted fault present (if_pos sameUid) updatedVersion.key_eq]
          exact ⟨⟨_, updatedVersion⟩, .reverted, _, storedProgress.le_reverted,
            Finmap.lookup_insert _, updatedVersion⟩

/-- Whatever version the object is, and whichever calls fail, the stored pod advances. -/
theorem advances_revertPod (legacyRevertMode : Bool) (isVersion : boosted.IsVersion progress pod)
    (present : server.pods.lookup boosted.key = some stored)
    (storedVersion : boosted.IsVersion storedProgress stored) :
    boosted.Advances storedProgress
      (revertPod lib (ApiServer.podClient lib order) legacyRevertMode pod server) := by
  cases legacyRevertMode with
  | true => exact advances_updateBoostPodLegacy order isVersion present storedVersion
  | false => exact advances_updateBoostPod order isVersion present storedVersion

end Calls

/-- The server has the pod in a version not behind the given one. -/
def StoredSince (least : Progress) (server : ApiServer) : Prop :=
  ∃ progress pod, least ≤ progress ∧ server.pods.lookup boosted.key = some pod ∧
    boosted.IsVersion progress pod

/-- A pod under the boosted pod's name is a version of it. -/
def OnlyVersions (pod : Pod) : Prop :=
  pod.key = boosted.key → ∃ progress, boosted.IsVersion progress pod

/-- The server's copy and all objects of the controller are versions. -/
structure Versioned (least : Progress) (pods : PodRef → Pod) (server : ApiServer) : Prop where
  keyed : server.Keyed
  stored : boosted.StoredSince least server
  objects : ∀ ref, boosted.OnlyVersions (pods ref)

/-- Deliveries of versions, reverts and lists keep the copies versions, and never set the
server's copy back. -/
theorem objectInvariant_versioned (order : RangeOrder PodKey) (least : Progress) :
    ObjectInvariant lib (ApiServer.podClient lib order) (boosted.Versioned least)
      boosted.OnlyVersions where
  deliver pods server ref pod versioned admits := by
    refine { versioned with objects := fun other => ?_ }
    by_cases same : other = ref
    · rw [same, Function.update_self]
      exact admits
    · rw [Function.update_of_ne same]
      exact versioned.objects other
  revert legacyRevertMode pods server ref versioned := by
    obtain ⟨keyed, ⟨progress, stored, since, present, storedVersion⟩, objects⟩ := versioned
    have sameKey := revertPod_key lib (ApiServer.podClient lib order) legacyRevertMode (pods ref)
      server
    refine ⟨keyed.revertPod lib order legacyRevertMode _, ?_, fun other => ?_⟩
    · by_cases isPod : (pods ref).key = boosted.key
      · obtain ⟨_, objectVersion⟩ := objects ref isPod
        obtain ⟨later, pod, advanced, found, version⟩ :=
          (advances_revertPod order legacyRevertMode objectVersion present storedVersion).stored
        exact ⟨later, pod, le_trans since advanced, found, version⟩
      · refine ⟨progress, stored, since, ?_, storedVersion⟩
        rw [ApiServer.revertPod_lookup_of_ne lib order legacyRevertMode (Ne.symm isPod)]
        exact present
    · by_cases same : other = ref
      · rw [same, Function.update_self]
        intro isPod
        obtain ⟨_, objectVersion⟩ := objects ref (sameKey ▸ isPod)
        exact (advances_revertPod order legacyRevertMode objectVersion present
          storedVersion).object
      · rw [Function.update_of_ne same]
        exact objects other
  list ns boost pods server versioned := by
    obtain ⟨progress, stored, -, present, storedVersion⟩ := versioned.stored
    have listedVersion (pod : Pod) (member : pod ∈ server.pods.rangeValues order) :
        boosted.OnlyVersions pod := by
      intro isPod
      obtain ⟨key, found⟩ := GoMap.mem_rangeValues.mp member
      have sameKey := versioned.keyed key pod found
      rw [← sameKey, isPod, present] at found
      cases found
      exact ⟨progress, storedVersion⟩
    simp only [ApiServer.podClient]
    split
    · exact ⟨{ versioned with keyed := versioned.keyed }, by simp⟩
    · refine ⟨{ versioned with keyed := versioned.keyed }, ?_⟩
      intro listed answer pod member
      cases answer
      exact listedVersion pod (List.mem_of_mem_filter member)

/-- The pods delivered under the boosted pod's name are versions of it, and other clients
write nothing but its status. -/
def VersionsDelivered (event : LifetimeEvent ApiServer) (life : Lifetime ApiServer) : Prop :=
  match event with
  | .handle (.upsertPod _ pod) => boosted.OnlyVersions pod
  | .handle (.changeServer server) =>
      server.Keyed ∧ ∀ pod, life.server.pods.lookup boosted.key = some pod →
        ∃ conditions, server.pods.lookup boosted.key = some { pod with conditions }
  | _ => True

variable {boosted} in
theorem Versioned.respects {least : Progress} (event : LifetimeEvent ApiServer)
    (life : Lifetime ApiServer) (versioned : boosted.Versioned least life.pods life.server)
    (delivered : boosted.VersionsDelivered event life) :
    event.Respects (boosted.Versioned least) boosted.OnlyVersions life := by
  cases event with
  | restart hasClient legacyRevertMode => trivial
  | handle event =>
      cases event with
      | upsertPod order pod => exact delivered
      | changeServer server =>
          obtain ⟨keyed, written⟩ := delivered
          obtain ⟨progress, pod, since, present, version⟩ := versioned.stored
          obtain ⟨conditions, stored⟩ := written pod present
          exact ⟨keyed, ⟨progress, _, since, stored, version.setConditions conditions⟩,
            versioned.objects⟩
      | _ => trivial

theorem Versioned.forgets {least : Progress} (pods : PodRef → Pod) (server : ApiServer)
    (versioned : boosted.Versioned least pods server) :
    boosted.Versioned least (fun _ => Controller.unusedPod) server := by
  refine { versioned with objects := fun _ isPod => ?_ }
  have unnamed : boosted.original.name = "" := (congrArg Prod.snd isPod).symm
  exact absurd unnamed boosted.named

theorem Versioned.since {least : Progress} {pods : PodRef → Pod} {server : ApiServer}
    (versioned : boosted.Versioned least pods server) :
    ∃ progress pod, server.pods.lookup boosted.key = some pod ∧
      boosted.IsVersion progress pod ∧ boosted.Versioned progress pods server := by
  obtain ⟨progress, pod, -, present, version⟩ := versioned.stored
  exact ⟨progress, pod, present, version,
    { versioned with stored := ⟨progress, pod, le_refl _, present, version⟩ }⟩

theorem versioned_start (hasClient legacyRevertMode : Bool) (now : Time) {server : ApiServer}
    (keyed : server.Keyed) (admitted : server.pods.lookup boosted.key = some boosted.answer) :
    boosted.Versioned .boosted
      (Lifetime.start hasClient legacyRevertMode now server).pods
      (Lifetime.start hasClient legacyRevertMode now server).server := by
  have isAnswer : boosted.IsVersion .boosted boosted.answer := by
    rw [IsVersion, version_boosted]
  have stored : boosted.StoredSince .boosted server :=
    ⟨.boosted, boosted.answer, le_refl _, admitted, isAnswer⟩
  refine { keyed := keyed, stored := stored, objects := fun _ isPod => ?_ }
  exact absurd (congrArg Prod.snd isPod).symm boosted.named

/-- Throughout every lifetime of the controller the server has the pod as the webhook
answered it, or with its containers restored, its label and annotation removed, or both,
and neither is ever undone. -/
theorem lifetime_moves_forward (order : RangeOrder PodKey) (hasClient legacyRevertMode : Bool)
    (now : Time) (server : ApiServer) (keyed : server.Keyed)
    (admitted : server.pods.lookup boosted.key = some boosted.answer)
    (events later : List (LifetimeEvent ApiServer))
    (delivered : AllowedRun (Lifetime.step lib (ApiServer.podClient lib order))
      boosted.VersionsDelivered (events ++ later)
      (.start hasClient legacyRevertMode now server)) :
    let run := fun events => runEvents (Lifetime.step lib (ApiServer.podClient lib order)) events
      (.start hasClient legacyRevertMode now server)
    ∃ before after pod pod', before ≤ after ∧
      (run events).server.pods.lookup boosted.key = some pod ∧ boosted.IsVersion before pod ∧
      (run (events ++ later)).server.pods.lookup boosted.key = some pod' ∧
      boosted.IsVersion after pod' := by
  intro run
  obtain ⟨first, second⟩ := allowedRun_of_append _ delivered
  have between := (boosted.objectInvariant_versioned order .boosted).lifetime
    (Versioned.forgets boosted) Versioned.respects
    (boosted.versioned_start hasClient legacyRevertMode now keyed admitted) first
  obtain ⟨before, pod, present, version, since⟩ := Versioned.since boosted between
  have afterwards := (boosted.objectInvariant_versioned order before).lifetime
    (Versioned.forgets boosted) Versioned.respects since second
  obtain ⟨after, pod', forward, present', version'⟩ := afterwards.stored
  refine ⟨before, after, pod, pod', forward, present, version, ?_, version'⟩
  simp only [run]
  rw [runEvents_append]
  exact present'

end BoostedPod

namespace Reference

noncomputable def doubledPod : BoostedPod referenceLibrary where
  handler := ⟨true, false⟩
  now := 0
  boost := doublingBoost
  original := plainPod
  named := by decide
  distinct := by decide
  unlabelled := Finmap.lookup_empty _
  unannotated := Finmap.lookup_empty _
  boosts := by decide +kernel

private theorem keyed_serverWith (pod : Pod) : (serverWith pod).Keyed := by
  intro key stored found
  rcases GoMap.lookup_insert_eq_some.mp found with ⟨same, rfl⟩ | ⟨-, missing⟩
  · exact same.symm
  · cases missing

/-- The pod is tracked and, after a restart, tracked and reverted. -/
theorem lifetime_moves_forward_doubledPod :
    let run := fun events => runEvents (Lifetime.step referenceLibrary referenceClient) events
      (.start true false 0 (serverWith doubledPod.answer))
    let track := [.handle (.createBoost .arbitrary (boostOf everything forMinute)),
      .handle (.upsertPod .arbitrary doubledPod.answer)]
    let tick := [.handle (.passTime tickTime), .handle (.startTick .arbitrary fun _ => .arbitrary),
      .handle (.checkBoost .arbitrary), .handle (.executeTask 0)]
    ∃ before after pod pod', before ≤ after ∧
      (run (track ++ [.restart true true])).server.pods.lookup doubledPod.key = some pod ∧
      doubledPod.IsVersion before pod ∧
      (run ((track ++ [.restart true true]) ++ (track ++ tick))).server.pods.lookup
        doubledPod.key = some pod' ∧
      doubledPod.IsVersion after pod' := by
  have version : doubledPod.OnlyVersions doubledPod.answer := by
    intro _
    refine ⟨.boosted, ?_⟩
    rw [BoostedPod.IsVersion, BoostedPod.version_boosted]
  have sameKey : doubledPod.answer.key = doubledPod.key := by
    rw [BoostedPod.answer_eq]
    rfl
  have admitted : (serverWith doubledPod.answer).pods.lookup doubledPod.key =
      some doubledPod.answer := by
    rw [serverWith, sameKey]
    exact Finmap.lookup_insert _
  exact doubledPod.lifetime_moves_forward .arbitrary true false 0 (serverWith doubledPod.answer)
    (keyed_serverWith _) admitted _ _
    ⟨trivial, version, trivial, trivial, version, trivial, trivial, trivial, trivial, trivial⟩

end Reference

end KubeStartupCPUBoost
