import KubeStartupCPUBoost.EnvConfig
import KubeStartupCPUBoost.FeatureGates
import KubeStartupCPUBoost.TransitionRun

/-!
# Start-up and readiness

The process starts in three threads: `main`, the setup of the controllers, which
waits for the certificates, and the loop of the boost manager, which is started by
the controller runtime.  They meet in the readiness check alone.  It reads two
things, whether the channel of the setup is closed and whether the loop runs, and
what it promises goes beyond them: the channel is closed when the setup returns,
and a setup that fails ends the process before it returns.
-/

namespace KubeStartupCPUBoost

def inPlacePodVerticalScalingFeatureGateName : String := "InPlacePodVerticalScaling"

def podLevelResourcesFeatureGateName : String := "PodLevelResources"

/-- The next thing `main` does, once the configuration is loaded. -/
inductive MainPoint where
  | clusterInfo
  | clusterVersion
  | featureGates
  | newManager
  | manageCerts
  | spawnSetup
  | addHealthz
  | addReadyz
  | addBoostManager
  | start
  | running
deriving DecidableEq

/-- The next thing the setup of the controllers does. -/
inductive SetupPoint where
  | notSpawned
  | waitForCerts
  | webhooks
  | podWebhook
  | setReconciler
  | boostController
  | globalController
  | returned
deriving DecidableEq

/-- Where the loop of the boost manager is. -/
inductive LoopPoint where
  | notStarted
  | entered
  | selecting
  | stopped
deriving DecidableEq

structure Process where
  exited : Bool := false
  main : MainPoint := .clusterInfo
  setup : SetupPoint := .notSpawned
  loop : LoopPoint := .notStarted
  /-- The feature gates, if they were read. -/
  gates : Option FeatureGates := none
  podLevelResourcesEnabled : Bool := false
  certsReady : Bool := false
  controllersReady : Bool := false
  readyzAdded : Bool := false
  boostManagerAdded : Bool := false
  isRunning : Bool := false
  webhooksSetUp : Bool := false
  /-- The handler of pods, with the setting it was made with. -/
  podWebhook : Option Bool := none
  hasReconciler : Bool := false
  boostControllerSetUp : Bool := false
  globalControllerSetUp : Bool := false
  /-- Ticks whose reconcile requests went nowhere. -/
  droppedTicks : Nat := 0

/-- What happens next.  A step of a thread carries whether the call it makes
succeeds, and reading the feature gates what it returns. -/
inductive StartUpEvent where
  | main (succeeds : Bool)
  | readGates (result : Except String FeatureGates)
  | certsReady
  | setup (succeeds : Bool)
  | startLoop
  | enterLoop
  | tick
  | stopLoop

namespace Process

variable (config : Config) (order : RangeOrder String)

/-- A call of `main` or of the setup whose failure ends the process. -/
def orExit (process next : Process) (succeeds : Bool) : Process :=
  if succeeds then next else { process with exited := true }

/-- The step of `main` at the feature gates: without the required gate the process
ends, and when the gates cannot be read it goes on. -/
def checkGates (process : Process) (result : Except String FeatureGates) : Process :=
  if config.validateFeatureEnabled then
    match result with
    | .error _ => { process with main := .newManager }
    | .ok gates =>
        if gates.isEnabledAnyStage order inPlacePodVerticalScalingFeatureGateName then
          { process with
            main := .newManager
            gates := some gates
            podLevelResourcesEnabled :=
              gates.isEnabledAnyStage order podLevelResourcesFeatureGateName }
        else { process with exited := true }
  else { process with main := .newManager }

def mainStep (process : Process) (succeeds : Bool) : Process :=
  match process.main with
  | .clusterInfo => process.orExit { process with main := .clusterVersion } succeeds
  | .clusterVersion => process.orExit { process with main := .featureGates } succeeds
  | .featureGates => process
  | .newManager => process.orExit { process with main := .manageCerts } succeeds
  | .manageCerts => process.orExit { process with main := .spawnSetup } succeeds
  | .spawnSetup => { process with main := .addHealthz, setup := .waitForCerts }
  | .addHealthz => process.orExit { process with main := .addReadyz } succeeds
  | .addReadyz =>
      process.orExit { process with main := .addBoostManager, readyzAdded := true } succeeds
  | .addBoostManager =>
      -- A failure is logged only.
      { process with main := .start, boostManagerAdded := succeeds }
  | .start => { process with main := .running }
  | .running =>
      -- The manager returns, with or without an error, and the process ends.
      { process with exited := true }

def setupStep (process : Process) (succeeds : Bool) : Process :=
  match process.setup with
  | .notSpawned => process
  | .waitForCerts =>
      if process.certsReady then { process with setup := .webhooks } else process
  | .webhooks =>
      process.orExit { process with setup := .podWebhook, webhooksSetUp := true } succeeds
  | .podWebhook =>
      { process with
        setup := .setReconciler
        podWebhook := some process.podLevelResourcesEnabled }
  | .setReconciler => { process with setup := .boostController, hasReconciler := true }
  | .boostController =>
      process.orExit
        { process with setup := .globalController, boostControllerSetUp := true } succeeds
  | .globalController =>
      -- The deferred call closes the channel.
      process.orExit
        { process with
          setup := .returned
          globalControllerSetUp := true
          controllersReady := true } succeeds
  | .returned => process

def step (event : StartUpEvent) (process : Process) : Process :=
  if process.exited then process
  else
    match event with
    | .main succeeds => process.mainStep succeeds
    | .readGates result =>
        if process.main = .featureGates then process.checkGates config order result else process
    | .certsReady => { process with certsReady := true }
    | .setup succeeds => process.setupStep succeeds
    | .startLoop =>
        if process.main = .running ∧ process.boostManagerAdded ∧ process.loop = .notStarted then
          { process with loop := .entered }
        else process
    | .enterLoop =>
        if process.loop = .entered then { process with loop := .selecting, isRunning := true }
        else process
    | .tick =>
        if process.loop = .selecting ∧ ¬ process.hasReconciler then
          { process with droppedTicks := process.droppedTicks + 1 }
        else process
    | .stopLoop =>
        if process.loop = .selecting then { process with loop := .stopped, isRunning := false }
        else process

def readyz (process : Process) : Except String Unit :=
  if !process.controllersReady then .error "controllers are not ready"
  else if !process.isRunning then .error "boost manager is not running"
  else .ok ()

end Process

def MainPoint.index : MainPoint → Nat
  | clusterInfo => 0
  | clusterVersion => 1
  | featureGates => 2
  | newManager => 3
  | manageCerts => 4
  | spawnSetup => 5
  | addHealthz => 6
  | addReadyz => 7
  | addBoostManager => 8
  | start => 9
  | running => 10

def SetupPoint.index : SetupPoint → Nat
  | notSpawned => 0
  | waitForCerts => 1
  | webhooks => 2
  | podWebhook => 3
  | setReconciler => 4
  | boostController => 5
  | globalController => 6
  | returned => 7

namespace Process

/-- The gates that were read have the required one, and the setting of the pod
webhook is taken from them. -/
structure GatesChecked (config : Config) (process : Process) : Prop where
  validated : ∀ gates, process.gates = some gates → config.validateFeatureEnabled = true
  required : ∀ gates, process.gates = some gates → ∀ order,
    gates.isEnabledAnyStage order inPlacePodVerticalScalingFeatureGateName = true
  podLevel : process.podLevelResourcesEnabled = true ↔
    ∃ gates, process.gates = some gates ∧
      ∀ order, gates.isEnabledAnyStage order podLevelResourcesFeatureGateName = true

/-- How far the setup has come is what it has done. -/
structure SetUpSoFar (process : Process) : Prop where
  spawned : 1 ≤ process.setup.index → 6 ≤ process.main.index
  certs : 2 ≤ process.setup.index → process.certsReady = true
  webhooks : 3 ≤ process.setup.index → process.webhooksSetUp = true
  podWebhook : 4 ≤ process.setup.index →
    process.podWebhook = some process.podLevelResourcesEnabled
  reconciler : 5 ≤ process.setup.index → process.hasReconciler = true
  boostController : 6 ≤ process.setup.index → process.boostControllerSetUp = true
  globalController : 7 ≤ process.setup.index → process.globalControllerSetUp = true
  closed : process.controllersReady = true → process.setup = .returned

/-- The loop runs after `main` has handed it over. -/
structure LoopSound (process : Process) : Prop where
  readyz : 8 ≤ process.main.index → process.readyzAdded = true
  started : process.loop ≠ .notStarted →
    process.main = .running ∧ process.boostManagerAdded = true
  running : process.isRunning = true ↔ process.loop = .selecting

structure StartUpSound (config : Config) (process : Process) : Prop where
  gates : GatesChecked config process
  setUp : SetUpSoFar process
  loop : LoopSound process

theorem startUpSound_initial (config : Config) : StartUpSound config {} := by
  constructor
  · constructor
    · intro gates read
      cases read
    · intro gates read
      cases read
    · simp
  · constructor <;> simp [SetupPoint.index]
  · constructor <;> simp [MainPoint.index]

namespace StartUpSound

variable {config : Config} {process : Process}

theorem exit (sound : StartUpSound config process) :
    StartUpSound config { process with exited := true } where
  gates := ⟨sound.gates.validated, sound.gates.required, sound.gates.podLevel⟩
  setUp := ⟨sound.setUp.spawned, sound.setUp.certs, sound.setUp.webhooks, sound.setUp.podWebhook,
    sound.setUp.reconciler, sound.setUp.boostController, sound.setUp.globalController,
    sound.setUp.closed⟩
  loop := ⟨sound.loop.readyz, sound.loop.started, sound.loop.running⟩

theorem orExit (sound : StartUpSound config process) {next : Process}
    (nextSound : StartUpSound config next) (succeeds : Bool) :
    StartUpSound config (process.orExit next succeeds) := by
  unfold Process.orExit
  split
  · exact nextSound
  · exact sound.exit

theorem notStarted (sound : StartUpSound config process) (notRunning : process.main ≠ .running) :
    process.loop = .notStarted := by
  by_contra started
  exact notRunning (sound.loop.started started).1

/-- `main` goes on, and changes nothing but what the loop depends on. -/
theorem advance (sound : StartUpSound config process) (notRunning : process.main ≠ .running)
    {main : MainPoint} (later : process.main.index ≤ main.index) {readyzAdded : Bool}
    (readyz : 8 ≤ main.index → readyzAdded = true) (boostManagerAdded : Bool) :
    StartUpSound config { process with main, readyzAdded, boostManagerAdded } where
  gates := ⟨sound.gates.validated, sound.gates.required, sound.gates.podLevel⟩
  setUp := ⟨fun spawned => (sound.setUp.spawned spawned).trans later, sound.setUp.certs,
    sound.setUp.webhooks, sound.setUp.podWebhook, sound.setUp.reconciler,
    sound.setUp.boostController, sound.setUp.globalController, sound.setUp.closed⟩
  loop := ⟨readyz, fun started => absurd (sound.notStarted notRunning) started,
    sound.loop.running⟩

theorem mainStep (sound : StartUpSound config process) (succeeds : Bool) :
    StartUpSound config (process.mainStep succeeds) := by
  have goesOn {main : MainPoint} (notRunning : process.main ≠ .running)
      (later : process.main.index ≤ main.index)
      (readyz : 8 ≤ main.index → process.readyzAdded = true) :
      StartUpSound config { process with main } :=
    sound.advance notRunning later readyz process.boostManagerAdded
  unfold Process.mainStep
  cases point : process.main with
  | clusterInfo | clusterVersion | newManager | manageCerts | addHealthz =>
      apply sound.orExit
      apply goesOn <;> simp [point, MainPoint.index]
  | featureGates => exact sound
  | spawnSetup =>
      have notSpawned : process.setup.index = 0 := by
        by_contra spawned
        have passed := sound.setUp.spawned (Nat.one_le_iff_ne_zero.mpr spawned)
        simp [point, MainPoint.index] at passed
      have notReturned : process.controllersReady ≠ true := by
        intro closed
        rw [sound.setUp.closed closed] at notSpawned
        cases notSpawned
      have advanced : StartUpSound config { process with main := .addHealthz } := by
        apply goesOn <;> simp [point, MainPoint.index]
      refine ⟨⟨advanced.gates.validated, advanced.gates.required, advanced.gates.podLevel⟩, ?_,
        ⟨advanced.loop.readyz, advanced.loop.started, advanced.loop.running⟩⟩
      constructor <;> simp [SetupPoint.index, MainPoint.index, notReturned]
  | addReadyz =>
      apply sound.orExit
      apply sound.advance <;> simp [point, MainPoint.index]
  | addBoostManager =>
      have readyz := sound.loop.readyz (by simp [point, MainPoint.index])
      apply sound.advance <;> simp [point, MainPoint.index, readyz]
  | start =>
      have readyz := sound.loop.readyz (by simp [point, MainPoint.index])
      apply goesOn <;> simp [point, MainPoint.index, readyz]
  | running =>
      have exited := sound.exit
      rw [point] at exited
      exact exited

theorem checkGates (sound : StartUpSound config process) (order : RangeOrder String)
    (atGates : process.main = .featureGates) (result : Except String FeatureGates) :
    StartUpSound config (process.checkGates config order result) := by
  have goesOn : StartUpSound config { process with main := .newManager } := by
    apply sound.advance <;> simp [atGates, MainPoint.index]
  unfold Process.checkGates
  by_cases validate : config.validateFeatureEnabled = true
  · rw [if_pos validate]
    cases result with
    | error message => exact goesOn
    | ok gates =>
        dsimp only
        by_cases required :
            gates.isEnabledAnyStage order inPlacePodVerticalScalingFeatureGateName = true
        · rw [if_pos required]
          have anyOrder (name : String) (order order' : RangeOrder String) :
              gates.isEnabledAnyStage order name = true ↔
                gates.isEnabledAnyStage order' name = true := by
            rw [FeatureGates.isEnabledAnyStage_iff_entry,
              FeatureGates.isEnabledAnyStage_iff_entry]
          have notSpawned : ¬ 1 ≤ process.setup.index := by
            intro spawned
            have passed := sound.setUp.spawned spawned
            simp [atGates, MainPoint.index] at passed
          refine ⟨⟨fun _ _ => validate, ?_, ?_⟩, ?_,
            ⟨goesOn.loop.readyz, goesOn.loop.started, goesOn.loop.running⟩⟩
          · intro read isRead order'
            cases isRead
            exact (anyOrder _ order order').mp required
          · constructor
            · intro enabled
              exact ⟨gates, rfl, fun order' => (anyOrder _ order order').mp enabled⟩
            · rintro ⟨read, isRead, enabled⟩
              cases isRead
              exact enabled order
          · exact ⟨goesOn.setUp.spawned, goesOn.setUp.certs, goesOn.setUp.webhooks,
              fun late => absurd (le_trans (by decide) late) notSpawned, goesOn.setUp.reconciler,
              goesOn.setUp.boostController, goesOn.setUp.globalController, goesOn.setUp.closed⟩
        · rw [if_neg required]
          exact sound.exit
  · rw [if_neg validate]
    exact goesOn

/-- The setup goes on; what it has done besides is given by the new invariant. -/
theorem ofSetUp (sound : StartUpSound config process) {next : Process}
    (setUp : SetUpSoFar next) (main : next.main = process.main)
    (gates : next.gates = process.gates)
    (podLevel : next.podLevelResourcesEnabled = process.podLevelResourcesEnabled)
    (readyz : next.readyzAdded = process.readyzAdded)
    (added : next.boostManagerAdded = process.boostManagerAdded)
    (loop : next.loop = process.loop) (isRunning : next.isRunning = process.isRunning) :
    StartUpSound config next where
  gates := by
    obtain ⟨validated, required, fromGates⟩ := sound.gates
    constructor
    · rwa [gates]
    · rwa [gates]
    · rwa [gates, podLevel]
  setUp := setUp
  loop := by
    obtain ⟨readyzAdded, started, running⟩ := sound.loop
    constructor
    · rwa [main, readyz]
    · rwa [loop, main, added]
    · rwa [isRunning, loop]

theorem setupStep (sound : StartUpSound config process) (succeeds : Bool) :
    StartUpSound config (process.setupStep succeeds) := by
  obtain ⟨spawned, certs, webhooks, podWebhook, reconciler, boostController, globalController,
    closed⟩ := sound.setUp
  unfold Process.setupStep
  cases point : process.setup with
  | notSpawned | returned => exact sound
  | waitForCerts =>
      dsimp only
      by_cases ready : process.certsReady = true
      · rw [if_pos ready]
        refine sound.ofSetUp ?_ rfl rfl rfl rfl rfl rfl rfl
        constructor <;> simp_all [SetupPoint.index]
      · rwa [if_neg ready]
  | webhooks | boostController | globalController =>
      apply sound.orExit
      refine sound.ofSetUp ?_ rfl rfl rfl rfl rfl rfl rfl
      constructor <;> simp_all [SetupPoint.index]
  | podWebhook | setReconciler =>
      refine sound.ofSetUp ?_ rfl rfl rfl rfl rfl rfl rfl
      constructor <;> simp_all [SetupPoint.index]

theorem ofLoop (sound : StartUpSound config process) (loopPoint : LoopPoint)
    (handedOver : process.main = .running ∧ process.boostManagerAdded = true)
    (droppedTicks : Nat) :
    StartUpSound config { process with
      loop := loopPoint
      isRunning := loopPoint = .selecting
      droppedTicks } where
  gates := ⟨sound.gates.validated, sound.gates.required, sound.gates.podLevel⟩
  setUp := ⟨sound.setUp.spawned, sound.setUp.certs, sound.setUp.webhooks, sound.setUp.podWebhook,
    sound.setUp.reconciler, sound.setUp.boostController, sound.setUp.globalController,
    sound.setUp.closed⟩
  loop := ⟨sound.loop.readyz, fun _ => handedOver, by simp⟩

theorem step (sound : StartUpSound config process) (order : RangeOrder String)
    (event : StartUpEvent) : StartUpSound config (process.step config order event) := by
  unfold Process.step
  split
  · exact sound
  · cases event with
    | main succeeds => exact sound.mainStep succeeds
    | readGates result =>
        dsimp only
        by_cases atGates : process.main = .featureGates
        · rw [if_pos atGates]
          exact sound.checkGates order atGates result
        · rwa [if_neg atGates]
    | certsReady =>
        refine sound.ofSetUp ?_ rfl rfl rfl rfl rfl rfl rfl
        obtain ⟨spawned, certs, webhooks, podWebhook, reconciler, boostController,
          globalController, closed⟩ := sound.setUp
        exact ⟨spawned, fun _ => rfl, webhooks, podWebhook, reconciler, boostController,
          globalController, closed⟩
    | setup succeeds => exact sound.setupStep succeeds
    | startLoop =>
        dsimp only
        by_cases canStart :
            process.main = .running ∧ process.boostManagerAdded ∧ process.loop = .notStarted
        · rw [if_pos canStart]
          obtain ⟨running, added, notStarted⟩ := canStart
          have stopped : process.isRunning = false := by
            rw [Bool.eq_false_iff, ne_eq, sound.loop.running, notStarted]
            decide
          have entered := sound.ofLoop .entered ⟨running, added⟩ process.droppedTicks
          rw [show decide (LoopPoint.entered = .selecting) = process.isRunning from
            stopped.symm] at entered
          exact entered
        · rwa [if_neg canStart]
    | enterLoop =>
        dsimp only
        by_cases entered : process.loop = .entered
        · rw [if_pos entered]
          have handedOver := sound.loop.started (by rw [entered]; decide)
          exact sound.ofLoop .selecting handedOver process.droppedTicks
        · rwa [if_neg entered]
    | tick =>
        dsimp only
        split
        · refine sound.ofSetUp ?_ rfl rfl rfl rfl rfl rfl rfl
          exact ⟨sound.setUp.spawned, sound.setUp.certs, sound.setUp.webhooks,
            sound.setUp.podWebhook, sound.setUp.reconciler, sound.setUp.boostController,
            sound.setUp.globalController, sound.setUp.closed⟩
        · exact sound
    | stopLoop =>
        dsimp only
        by_cases selecting : process.loop = .selecting
        · rw [if_pos selecting]
          have handedOver := sound.loop.started (by rw [selecting]; decide)
          exact sound.ofLoop .stopped handedOver process.droppedTicks
        · rwa [if_neg selecting]

end StartUpSound

theorem readyz_eq_ok_iff (process : Process) :
    process.readyz = .ok () ↔ process.controllersReady = true ∧ process.isRunning = true := by
  unfold readyz
  cases process.controllersReady <;> cases process.isRunning <;> simp

/-- Everything a ready process has set up. -/
structure SetUp (config : Config) (process : Process) : Prop where
  certs : process.certsReady = true
  webhooks : process.webhooksSetUp = true
  podWebhook : process.podWebhook = some process.podLevelResourcesEnabled
  reconciler : process.hasReconciler = true
  controllers : process.boostControllerSetUp = true ∧ process.globalControllerSetUp = true
  loop : process.boostManagerAdded = true ∧ process.loop = .selecting
  gates : GatesChecked config process

theorem StartUpSound.setUp_of_ready {config : Config} {process : Process}
    (sound : StartUpSound config process) (ready : process.readyz = .ok ()) :
    process.setup = .returned ∧ process.SetUp config := by
  obtain ⟨closed, isRunning⟩ := process.readyz_eq_ok_iff.mp ready
  have returned := sound.setUp.closed closed
  have selecting := sound.loop.running.mp isRunning
  have handedOver := sound.loop.started (by rw [selecting]; decide)
  have past {index : Nat} (bound : index ≤ 7) : index ≤ process.setup.index := by
    rw [returned]
    exact bound
  exact ⟨returned, sound.setUp.certs (past (by decide)), sound.setUp.webhooks (past (by decide)),
    sound.setUp.podWebhook (past (by decide)), sound.setUp.reconciler (past (by decide)),
    ⟨sound.setUp.boostController (past (by decide)),
      sound.setUp.globalController (past (by decide))⟩,
    ⟨handedOver.2, selecting⟩, sound.gates⟩

/-- An event that neither stops the loop nor lets `main` return. -/
def Continues : StartUpEvent → Prop
  | .main _ => False
  | .stopLoop => False
  | _ => True

theorem step_of_ready {config : Config} {process : Process} (order : RangeOrder String)
    (sound : StartUpSound config process) (ready : process.readyz = .ok ())
    {event : StartUpEvent} (continues : Continues event) :
    (process.step config order event).readyz = .ok () ∧
      (process.step config order event).exited = process.exited ∧
      (process.step config order event).droppedTicks = process.droppedTicks := by
  obtain ⟨returned, setUp⟩ := sound.setUp_of_ready ready
  have handedOver := sound.loop.started (by rw [setUp.loop.2]; decide)
  unfold Process.step
  split
  · exact ⟨ready, rfl, rfl⟩
  · cases event with
    | main | stopLoop => exact continues.elim
    | readGates result =>
        dsimp only
        rw [if_neg (by rw [handedOver.1]; decide)]
        exact ⟨ready, rfl, rfl⟩
    | certsReady => exact ⟨ready, rfl, rfl⟩
    | setup succeeds =>
        dsimp only
        rw [setupStep, returned]
        exact ⟨ready, rfl, rfl⟩
    | startLoop =>
        dsimp only
        rw [if_neg (by rw [setUp.loop.2]; simp)]
        exact ⟨ready, rfl, rfl⟩
    | enterLoop =>
        dsimp only
        rw [if_neg (by rw [setUp.loop.2]; decide)]
        exact ⟨ready, rfl, rfl⟩
    | tick =>
        dsimp only
        rw [if_neg (by rw [setUp.reconciler]; simp)]
        exact ⟨ready, rfl, rfl⟩

theorem run_of_ready {config : Config} {process : Process} (order : RangeOrder String)
    (sound : StartUpSound config process) (ready : process.readyz = .ok ())
    {events : List StartUpEvent} (continues : ∀ event ∈ events, Continues event) :
    let after := runEvents (step config order) events process
    after.readyz = .ok () ∧ after.exited = process.exited ∧
      after.droppedTicks = process.droppedTicks := by
  induction events generalizing process with
  | nil => exact ⟨ready, rfl, rfl⟩
  | cons event rest ih =>
      obtain ⟨stillReady, sameExit, sameTicks⟩ :=
        step_of_ready order sound ready (continues event List.mem_cons_self)
      obtain ⟨finallyReady, finalExit, finalTicks⟩ := ih (sound.step order event) stillReady
        fun later member => continues later (List.mem_cons_of_mem event member)
      exact ⟨finallyReady, finalExit.trans sameExit, finalTicks.trans sameTicks⟩

/-- In every interleaving of the threads, a process whose readiness check passes has
everything set up, with the required feature gate enabled if the gates were read.
From then on, until it is stopped, it stays ready, and no tick's requests are
lost. -/
theorem ready_means_set_up (config : Config) (order : RangeOrder String)
    (events : List StartUpEvent) :
    let process := runEvents (step config order) events {}
    process.readyz = .ok () →
      process.SetUp config ∧
        ∀ later, (∀ event ∈ later, Continues event) →
          let after := runEvents (step config order) later process
          after.readyz = .ok () ∧ after.SetUp config ∧ after.exited = process.exited ∧
            after.droppedTicks = process.droppedTicks := by
  intro process ready
  have sound : StartUpSound config process :=
    runEvents_preserves (fun event state sound => sound.step order event)
      (startUpSound_initial config)
  refine ⟨(sound.setUp_of_ready ready).2, fun later continues => ?_⟩
  obtain ⟨stillReady, sameExit, sameTicks⟩ := run_of_ready order sound ready continues
  have laterSound : StartUpSound config (runEvents (step config order) later process) :=
    runEvents_preserves (fun event state sound => sound.step order event) sound
  exact ⟨stillReady, (laterSound.setUp_of_ready stillReady).2, sameExit, sameTicks⟩

end Process

namespace Reference

/-- A start-up in which everything succeeds, the certificates come late, and the loop
ticks once before the setup has returned. -/
def startUpEvents : List StartUpEvent :=
  [.main true, .main true, .readGates (.error "forbidden"), .main true, .main true, .main true,
    .main true, .main true, .main true, .main true, .startLoop, .enterLoop, .tick, .setup true,
    .certsReady, .setup true, .setup true, .setup true, .setup true, .setup true, .setup true]

/-- The process is ready afterwards, with the tick before its setup lost, and loses no
further tick. -/
theorem ready_means_set_up_startUpEvents :
    let process := runEvents (Process.step defaultConfig .arbitrary) startUpEvents {}
    process.droppedTicks = 1 ∧
      (runEvents (Process.step defaultConfig .arbitrary) [.tick] process).droppedTicks = 1 := by
  intro process
  have ready : process.readyz = .ok () := rfl
  have ticks : process.droppedTicks = 1 := rfl
  obtain ⟨-, stays⟩ :=
    Process.ready_means_set_up defaultConfig .arbitrary startUpEvents ready
  have continues : ∀ event ∈ [StartUpEvent.tick], Process.Continues event := by
    intro event member
    rw [List.mem_singleton.mp member]
    trivial
  exact ⟨ticks, (stays [.tick] continues).2.2.2.trans ticks⟩

end Reference

end KubeStartupCPUBoost
