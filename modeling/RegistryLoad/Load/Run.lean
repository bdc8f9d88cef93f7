import RegistryLoad.Load.Session
import RegistryLoad.Settings.Check

/-!
# Runs

A load run: registrations, subscriptions and a score board over one registry in memory and one
generated topology, for a given time or until somebody interrupts it.

* `Run.create`: a run from settings that pass their check; `Run.create?`: the same, for topologies
  of any size.
* `Run.runTo`, `Run.runUntil`: the whole run, from the first start to the summary.
* `Run.stop`: ends everything; the registry takes no writes from then on.
-/

namespace RegistryLoad

/-- Why a run cannot be made or cannot go on. -/
inductive RunError where
  | settings (cause : SettingsError)
  | topology (cause : TopologyError)
  | output (reason : String)
  deriving DecidableEq, Repr

def RunError.message : RunError → String
  | .settings cause => "Invalid configuration: " ++ cause.message
  | .topology cause => "Topology error: " ++ cause.message
  | .output reason => "Score board output error: " ++ reason

/-- What is left of a run after its end. -/
structure Summary where
  snapshot : Snapshot
  registrySize : Nat
  pool : Nat
  activeRegistrations : Nat
  activeInterests : Nat
  deriving Repr

/-- The instances that the run holds, registered or spare. -/
def Summary.total (s : Summary) : Nat := s.pool + s.activeRegistrations

/-- A run.  `outputFailure` is the reason for which the output of the score board cannot be
opened, if there is one; `started` are the activities that were started and not stopped. -/
structure Run where
  settings : Settings
  outputFailure : Option String
  session : Session Generator Store
  started : List Activity := []

namespace Run

/-- The name of the topology of every run. -/
def topologyName : String := "perfTest"

/-- How often an activity has its turns, as its schedule tells.  Without a schedule it cannot be
started (see `Run.obstacle?`). -/
def paceOf (schedule : Except SettingsError Schedule) (target : UInt64) : Pace :=
  match schedule with
  | .ok schedule => ⟨schedule, target⟩
  | .error _ => { target := target }

/-- What the activities of a run with given settings are to do. -/
def plan (settings : Settings) : Plan where
  registrations := paceOf settings.registrationSchedule settings.registryTarget
  interests := paceOf settings.interestSchedule settings.interestTarget
  boardPeriod := settings.boardPeriod

/-- A run over a topology, with nothing started and an empty registry. -/
def opening (settings : Settings) (clock : Clock) (outputFailure : Option String)
    (generator : Generator) : Run :=
  let work : Workload Generator Store :=
    { registry := {}
      conveyor := { topology := generator }
      subscriptions := { queries := generator.queries } }
  let made := .topologyMade topologyName settings.poolSize settings.applications
  ⟨settings, outputFailure, Session.opening (plan settings) clock (work.note made), []⟩

/-- A run with nothing started, over the topology that the settings ask for. -/
def create (settings : Settings) (clock : Clock) (outputFailure : Option String) :
    Except RunError Run := do
  settings.check.mapError .settings
  let generator ← (Generator.create topologyName settings.applications settings.poolSize
    settings.seed).mapError .topology
  return opening settings clock outputFailure generator

/-- Such a run, unless its topology is too large to be made: then the program breaks off. -/
def create? (settings : Settings) (clock : Clock) (outputFailure : Option String) :
    Option (Except RunError Run) :=
  match settings.check with
  | .error cause => some (.error (.settings cause))
  | .ok () =>
    (Generator.create? topologyName settings.applications settings.poolSize settings.seed).map
      fun made => (made.mapError .topology).map (opening settings clock outputFailure)

def work (r : Run) : Workload Generator Store := r.session.work

def note (r : Run) (n : Notice) : Run := { r with session := r.session.note n }

/-- Waits for some nanoseconds. -/
def wait (r : Run) (nanos : Nat) : Run := { r with session := r.session.wait nanos }

/-! ## Starting -/

/-- What an activity finds when it is started: the registrations begin with a full pool and the
subscriptions without a channel. -/
def prepared (w : Workload Generator Store) : Activity → Workload Generator Store
  | .registrations => { w with conveyor := Conveyor.start w.conveyor.topology }
  | .interests =>
    { w with subscriptions := w.subscriptions.restart w.conveyor.topology.queries }
  | .board => w

/-- The reason for which there is no schedule, if there is none. -/
def refusal? : Except SettingsError Schedule → Option RunError
  | .ok _ => none
  | .error cause => some (.settings cause)

/-- The reason for which an activity cannot be started, if there is one: a rate without a schedule,
or an output that cannot be opened. -/
def obstacle? (r : Run) : Activity → Option RunError
  | .registrations => refusal? r.settings.registrationSchedule
  | .interests => refusal? r.settings.interestSchedule
  | .board => r.outputFailure.map .output

/-- Starts an activity, unless it has been started already. -/
def start (r : Run) (activity : Activity) : Except RunError Unit × Run :=
  if r.started.contains activity then (.ok (), r.note (.alreadyStarted activity))
  else
    match r.obstacle? activity with
    | some e => (.error e, r)
    | none =>
      let session := r.session.withWork (prepared r.work activity)
      (.ok (),
        { r with session := session.start activity, started := r.started ++ [activity] })

/-- Starts one activity after the other, as long as that is possible. -/
def startEach : List Activity → Run → Except RunError Unit × Run
  | [], r => (.ok (), r)
  | activity :: rest, r =>
    match r.start activity with
    | (.ok (), r) => startEach rest r
    | (.error e, r) => (.error e, r)

/-! ## Stopping -/

/-- The state of the run as it is now. -/
def summary (r : Run) : Summary where
  snapshot := r.session.stage.snapshot
  registrySize := r.work.registry.size
  pool := r.work.conveyor.pool.size
  activeRegistrations := r.work.conveyor.active.size
  activeInterests := r.work.subscriptions.active.size

/-- Refuses all further writes to the registry. -/
def shutRegistry (r : Run) : Run :=
  let w := r.work
  let w := { w with registry := w.registry.shutDown }
  { r with session := r.session.withWork (w.noteAll r.work.registry.shutDownNotices) }

/-- Cancels the run and waits for everything that was started. -/
def finishStarted (r : Run) : Run :=
  if r.started.isEmpty then { r with session := r.session.cancel }
  else { r with session := r.session.finish.2, started := [] }

/-- Stops the run for good. -/
def stop (r : Run) : Summary × Run :=
  let r := r.finishStarted.shutRegistry
  let summary := r.summary
  (summary, r.note (.finalBoard summary.snapshot summary.pool summary.activeRegistrations))

/-! ## The whole run -/

/-- The activities in the order in which a run starts them. -/
def activities : List Activity := [.registrations, .interests, .board]

/-- A moment of a run: a span from its start, and how many of the turns that are due at that
very instant, and of the calls under way then, come before it. -/
structure Moment where
  span : TimeSpan
  turns : Nat := 0
  calls : Nat := 0
  deriving Repr

/-- Waits until the time of the run is over or, if that comes first, until it is interrupted. -/
def passTime (r : Run) (interrupt : Option Moment) : Run :=
  let length := r.settings.duration.totalNanos
  let span := r.session.stage.clock.span r.session.now
  match interrupt with
  | none => r.wait length
  | some ⟨moment, turns, calls⟩ =>
    if span moment.totalNanos < span length then
      let waited := r.wait moment.totalNanos
      { waited with session := waited.session.amid turns calls }.note .interrupted
    else r.wait length

/-- Runs until the time is over, or until it is interrupted at the given moment. -/
def runTo (r : Run) (interrupt : Option Moment) : Except RunError Summary × Run :=
  match startEach activities r with
  | (.error e, r) => (.error e, r.stop.2)
  | (.ok (), r) =>
    let r := (r.note (.durationSet r.settings.duration.seconds)).passTime interrupt
    let (summary, r) := (r.note .finishing).stop
    (.ok summary, r)

/-- Runs until the time is over, or until it is interrupted after the given span, before
anything that is due by then. -/
def runUntil (r : Run) (interrupt : Option TimeSpan) : Except RunError Summary × Run :=
  r.runTo (interrupt.map fun span => { span := span })

end Run

end RegistryLoad
