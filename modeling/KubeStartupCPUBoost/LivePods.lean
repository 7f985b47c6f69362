import KubeStartupCPUBoost.ApiServer
import KubeStartupCPUBoost.BoostTracking

/-!
# The pods that live at the server

In the course of time one name can stand for several pods, each with its own
UID and its own time of being scheduled.  `LivePods` gives the pods that live
at a server and what the API guarantees about them: no call of the controller
replaces a pod or changes its status, and an answer is the pod that lives.

An object in the controller's memory is current if it has the UID of the live
pod of its name.  Reverting an object keeps it current (`revertPod_keepsLive`).
-/

namespace KubeStartupCPUBoost

/-- When a pod was scheduled, according to its conditions. -/
def scheduledTime : List PodCondition → Option Time
  | [] => none
  | condition :: rest =>
      if condition.type = "PodScheduled" ∧ condition.status = "True" then
        some condition.lastTransitionTime
      else scheduledTime rest

/-- A fixed duration counts from the time the pod was scheduled. -/
theorem fixedDurationValid_eq_false_iff (duration : Int64) (now : Time)
    (conditions : List PodCondition) :
    fixedDurationValid duration now conditions = false ↔
      ∃ scheduled, scheduledTime conditions = some scheduled ∧
        scheduled + duration.toInt ≤ now := by
  induction conditions with
  | nil => simp [fixedDurationValid, scheduledTime]
  | cons condition conditions ih =>
      unfold fixedDurationValid scheduledTime
      split
      · simp
      · exact ih

/-- What tells a pod from the others that bear its name before and after. -/
def Pod.identity (pod : Pod) : String × Option Time := (pod.uid, scheduledTime pod.conditions)

/-- A fixed duration that has expired for a pod has expired ever after. -/
theorem fixed_expired_mono {duration : Int64} {before now : Time} {first second : Pod}
    (later : before ≤ now) (same : first.identity = second.identity)
    (expired : (DurationPolicy.fixed duration).valid before first = false) :
    (DurationPolicy.fixed duration).valid now second = false := by
  have sameSchedule : scheduledTime first.conditions = scheduledTime second.conditions :=
    congrArg Prod.snd same
  obtain ⟨scheduled, found, passed⟩ := (fixedDurationValid_eq_false_iff _ _ _).mp expired
  exact (fixedDurationValid_eq_false_iff _ _ _).mpr
    ⟨scheduled, sameSchedule ▸ found, passed.trans later⟩

section Views

variable {σ : Type} (live : σ → PodKey → Option Pod)

/-- Every name stands for the same pod as before. -/
def SameLive (before after : σ) : Prop :=
  ∀ key, (live after key).map Pod.identity = (live before key).map Pod.identity

/-- A call on a pod leaves every pod in place, and answers with the live one. -/
def AnswersLive (key : PodKey) (server : σ) (outcome : Except String Pod × σ) : Prop :=
  SameLive live server outcome.2 ∧
    ∀ pod, outcome.1 = .ok pod → (live server key).map Pod.identity = some pod.identity

/-- An object has the UID of the live pod of its name, if there is one. -/
def Current (server : σ) (pod : Pod) : Prop :=
  ∀ stored, live server pod.key = some stored → pod.uid = stored.uid

variable {live}

theorem SameLive.trans {first second third : σ} (before : SameLive live first second)
    (after : SameLive live second third) : SameLive live first third :=
  fun key => (after key).trans (before key)

theorem SameLive.exists_before {before after : σ} (same : SameLive live before after)
    {key : PodKey} {pod : Pod} (found : live after key = some pod) :
    ∃ earlier, live before key = some earlier ∧ earlier.identity = pod.identity := by
  have identities := same key
  rw [found] at identities
  exact Option.map_eq_some_iff.mp identities.symm

theorem Current.congr {before after : σ} {pod changed : Pod} (current : Current live before pod)
    (same : SameLive live before after) (sameKey : changed.key = pod.key)
    (sameUid : changed.uid = pod.uid) : Current live after changed := by
  intro stored found
  rw [sameKey] at found
  obtain ⟨earlier, present, identical⟩ := same.exists_before found
  rw [sameUid, current earlier present]
  exact congrArg Prod.fst identical

/-- The answer to a call is current. -/
theorem AnswersLive.current {key : PodKey} {server : σ} {outcome : Except String Pod × σ}
    {pod : Pod} (answers : AnswersLive live key server outcome) (answer : outcome.1 = .ok pod)
    (sameKey : pod.key = key) : Current live outcome.2 pod := by
  intro stored found
  rw [sameKey] at found
  have identities := (answers.1 key).trans (answers.2 pod answer)
  rw [found] at identities
  exact (congrArg Prod.fst (Option.some.inj identities)).symm

end Views

/-- The pods that live at a server, with what the API guarantees about them. -/
structure LivePods {σ : Type} (client : PodClient σ) where
  live : σ → PodKey → Option Pod
  patchResize : ∀ key data server,
    AnswersLive live key server (client.patchResize key data server)
  patch : ∀ key data server, AnswersLive live key server (client.patch key data server)
  update : ∀ sent server, AnswersLive live sent.key server (client.update sent server)
  list : ∀ ns boost server, SameLive live server (client.list ns boost server).2

namespace ApiServer

variable (lib : Library)

theorem call_answersLive (server : ApiServer) (key : PodKey) {change : Pod → Except String Pod}
    (keepsIdentity : ∀ stored updated, change stored = .ok updated →
      updated.identity = stored.identity) :
    AnswersLive (fun server key => server.pods.lookup key) key server
      (server.call key change) := by
  rcases server.call_cases key change with
    ⟨message, failed⟩ | ⟨stored, updated, present, changed, -, succeeded⟩
  · rw [failed]
    exact ⟨fun _ => rfl, fun pod answer => by cases answer⟩
  · have kept := keepsIdentity stored updated changed
    rw [succeeded]
    constructor
    · intro other
      by_cases sameKey : other = key
      · subst other
        simp [present, kept]
      · simp [sameKey]
    · intro answered answer
      cases answer
      simp only [present, Option.map_some, kept]

theorem replaced_identity {body stored updated : Pod}
    (accepted : replaced body stored = .ok updated) :
    updated.identity = stored.identity := by
  unfold replaced at accepted
  by_cases sameUid : body.uid = stored.uid
  · rw [if_pos sameUid] at accepted
    cases accepted
    exact Prod.ext sameUid rfl
  · rw [if_neg sameUid] at accepted
    cases accepted

theorem patched_identity {patch : Json} {stored updated : Pod}
    (accepted : patched lib patch stored = .ok updated) : updated.identity = stored.identity := by
  unfold patched at accepted
  split at accepted
  · cases accepted
  · exact replaced_identity accepted

theorem resized_identity {patch : Json} {stored updated : Pod}
    (accepted : resized lib patch stored = .ok updated) : updated.identity = stored.identity := by
  unfold resized at accepted
  split at accepted
  · cases accepted
  · split at accepted
    · cases accepted
      rfl
    · cases accepted

def livePods (order : RangeOrder PodKey) : LivePods (podClient lib order) where
  live server key := server.pods.lookup key
  patchResize key data server :=
    server.call_answersLive key fun _ _ => resized_identity lib
  patch key data server := server.call_answersLive key fun _ _ => patched_identity lib
  update sent server := server.call_answersLive sent.key fun _ _ => replaced_identity
  list ns boost server := by
    intro key
    simp only [podClient]
    split <;> rfl

end ApiServer

section Reverts

variable (lib : Library) {σ : Type} {client : PodClient σ} (view : LivePods client)

private theorem sendPatch_keepsLive {data : Pod → Pod × Except String Json}
    {send : PodKey → Json → σ → Except String Pod × σ} {pod : Pod} {server : σ}
    (dataKey : (data pod).1.key = pod.key) (dataUid : (data pod).1.uid = pod.uid)
    (sendKey : ∀ patch stored, (send pod.key patch server).1 = .ok stored →
      stored.key = pod.key)
    (answers : ∀ patch, AnswersLive view.live pod.key server (send pod.key patch server)) :
    let outcome := sendPatch data send pod server
    SameLive view.live server outcome.server ∧
      (Current view.live server pod → Current view.live outcome.server outcome.pod) := by
  simp only [sendPatch]
  cases built : data pod with
  | mk mutated result =>
      rw [built] at dataKey dataUid
      cases result with
      | error message =>
          exact ⟨fun _ => rfl, fun current => current.congr (fun _ => rfl) dataKey dataUid⟩
      | ok patch =>
          have answered := answers patch
          have keyed := sendKey patch
          simp only
          cases sent : send pod.key patch server with
          | mk answer after =>
              rw [sent] at answered keyed
              cases answer with
              | error message =>
                  exact ⟨answered.1, fun current => current.congr answered.1 dataKey dataUid⟩
              | ok stored => exact ⟨answered.1, fun _ => answered.current rfl (keyed stored rfl)⟩

theorem revertPod_keepsLive (legacyRevertMode : Bool) (pod : Pod) (server : σ) :
    let outcome := revertPod lib client legacyRevertMode pod server
    SameLive view.live server outcome.server ∧
      (Current view.live server pod → Current view.live outcome.server outcome.pod) := by
  cases legacyRevertMode with
  | true =>
      have kept := revertResourceBoost_key lib pod
      obtain ⟨containers, labels, annotations, mutation⟩ := revertResourceBoost_eq lib pod
      have sameUid : (revertResourceBoost lib pod).1.uid = pod.uid := by rw [mutation]
      simp only [revertPod, if_true, updateBoostPodLegacy]
      cases reverted : revertResourceBoost lib pod with
      | mk mutated result =>
          rw [reverted] at kept sameUid
          cases result with
          | error message =>
              exact ⟨fun _ => rfl, fun current => current.congr (fun _ => rfl) kept sameUid⟩
          | ok =>
              have answered := view.update mutated server
              have keyed := client.update_key mutated server
              simp only
              cases sent : client.update mutated server with
              | mk answer after =>
                  rw [sent] at answered keyed
                  cases answer with
                  | error message =>
                      exact ⟨answered.1, fun current => current.congr answered.1 kept sameUid⟩
                  | ok stored =>
                      exact ⟨answered.1, fun _ => answered.current rfl (keyed stored rfl)⟩
  | false =>
      obtain ⟨containers, mutation⟩ := revertBoostResources_eq lib pod
      obtain ⟨resizeLive, resizeCurrent⟩ := sendPatch_keepsLive view
        (revertBoostResourcesPatch_key lib pod)
        (by rw [revertBoostResourcesPatch_eq, mutation])
        (fun patch stored => client.patchResize_key pod.key patch server stored)
        (fun patch => view.patchResize pod.key patch server)
      simp only [revertPod, Bool.false_eq_true, if_false, updateBoostPod]
      split
      · exact ⟨resizeLive, resizeCurrent⟩
      · obtain ⟨patchLive, patchCurrent⟩ := sendPatch_keepsLive view
          (revertBoostLabelsPatch_key lib _) rfl
          (fun patch stored => client.patch_key _ patch _ stored)
          (fun patch => view.patch _ patch _)
        exact ⟨resizeLive.trans patchLive, fun current => patchCurrent (resizeCurrent current)⟩

variable {view} in
theorem AnswersLive.exists_live {key : PodKey} {server : σ} {outcome : Except String Pod × σ}
    {pod : Pod} (answers : AnswersLive view.live key server outcome)
    (answer : outcome.1 = .ok pod) : ∃ stored, view.live server key = some stored := by
  obtain ⟨stored, found, _⟩ := Option.map_eq_some_iff.mp (answers.2 pod answer)
  exact ⟨stored, found⟩

private theorem sendPatch_ok_live {data : Pod → Pod × Except String Json}
    {send : PodKey → Json → σ → Except String Pod × σ} {pod : Pod} {server : σ}
    (answers : ∀ patch, AnswersLive view.live pod.key server (send pod.key patch server))
    (succeeded : (sendPatch data send pod server).result = .ok ()) :
    ∃ stored, view.live server pod.key = some stored := by
  cases built : data pod with
  | mk mutated outcome =>
      cases outcome with
      | error message =>
          rw [sendPatch, built] at succeeded
          cases succeeded
      | ok patch =>
          obtain ⟨stored, answer, -⟩ := sendPatch_ok built succeeded
          exact (answers patch).exists_live answer

/-- A revert succeeds on a live pod only. -/
theorem revertPod_ok_live {legacyRevertMode : Bool} {pod : Pod} {server : σ}
    (succeeded : (revertPod lib client legacyRevertMode pod server).result = .ok ()) :
    ∃ stored, view.live server pod.key = some stored := by
  cases legacyRevertMode with
  | true =>
      have kept := revertResourceBoost_key lib pod
      simp only [revertPod, if_true, updateBoostPodLegacy] at succeeded
      cases reverted : revertResourceBoost lib pod with
      | mk mutated outcome =>
          rw [reverted] at kept succeeded
          cases outcome with
          | error message => cases succeeded
          | ok =>
              have answered := view.update mutated server
              rw [kept] at answered
              cases sent : client.update mutated server with
              | mk answer after =>
                  rw [sent] at answered
                  simp only [sent] at succeeded
                  cases answer with
                  | error message => cases succeeded
                  | ok stored => exact answered.exists_live rfl
  | false =>
      simp only [revertPod, Bool.false_eq_true, if_false, updateBoostPod] at succeeded
      cases resized : (sendPatch (revertBoostResourcesPatch lib) client.patchResize pod
          server).result with
      | error message =>
          rw [resized] at succeeded
          cases resized.symm.trans succeeded
      | ok =>
          exact sendPatch_ok_live view (fun patch => view.patchResize pod.key patch server) resized

/-- No live pod is replaced, and objects that are current stay so. -/
structure KeepsLive (memory memory' : Memory σ) : Prop where
  live : SameLive view.live memory.server memory'.server
  current : ∀ ref, Current view.live memory.server (memory.pods ref) →
    Current view.live memory'.server (memory'.pods ref)

variable {view}

theorem KeepsLive.congr {before memory memory' : Memory σ} (kept : KeepsLive view before memory)
    (pods : memory'.pods = memory.pods) (server : memory'.server = memory.server) :
    KeepsLive view before memory' := by
  refine ⟨?_, ?_⟩
  · rw [server]
    exact kept.live
  · rw [pods, server]
    exact kept.current

theorem KeepsLive.refl (memory : Memory σ) : KeepsLive view memory memory :=
  ⟨fun _ => rfl, fun _ current => current⟩

variable (view)

theorem keepsLive_revertResources (ref : PodRef) (boost : StartupCPUBoostImpl)
    (memory : Memory σ) :
    KeepsLive view memory (boost.revertResources lib client ref memory).memory := by
  obtain ⟨sameLive, stillCurrent⟩ := revertPod_keepsLive lib view boost.legacyRevertMode
    (memory.pods ref) memory.server
  have touched := boost.touches_revertResources lib client ref memory
  constructor
  · rw [StartupCPUBoostImpl.revertResources_server]
    exact sameLive
  · intro other current
    rw [StartupCPUBoostImpl.revertResources_server]
    by_cases same : other = ref
    · subst other
      rw [StartupCPUBoostImpl.revertResources_pods, Function.update_self]
      exact stillCurrent current
    · rw [touched.pods_of_ne other same]
      exact current.congr sameLive rfl rfl

theorem keepsLive_upsertPod (now : Time) (ref : PodRef) (boost : StartupCPUBoostImpl)
    (memory : Memory σ) :
    KeepsLive view memory (boost.upsertPod lib client now ref memory).memory := by
  obtain ⟨stats, metrics, met, notMet⟩ := boost.upsertPod_eq lib client now ref memory
  by_cases condition : boost.MeetsPodCondition now (memory.pods ref)
  · rw [met condition]
    exact (KeepsLive.refl memory).congr rfl rfl
  · rw [notMet condition]
    have reverted := keepsLive_revertResources lib view ref
      { boost with pods := boost.pods.insert (memory.pods ref).name ref, stats }
      { memory with metrics }
    exact ⟨reverted.live, reverted.current⟩

end Reverts

end KubeStartupCPUBoost
