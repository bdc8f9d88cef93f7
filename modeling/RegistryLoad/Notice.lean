import RegistryLoad.Registry.Store
import RegistryLoad.Schedule
import RegistryLoad.Decimal.Fixed
import RegistryLoad.Scoreboard.Table

/-!
# Notices

What a load run reports about itself.  A notice says what happened; its wording, its level and
the part of the run that it comes from follow from that.
-/

namespace RegistryLoad

open RegistryLoad.Text

/-- How important a notice is, least first. -/
inductive Level where
  | trace
  | debug
  | info
  | warn
  | error
  deriving DecidableEq, Repr

namespace Level

def rank : Level → Nat
  | trace => 0
  | debug => 1
  | info => 2
  | warn => 3
  | error => 4

def name : Level → String
  | trace => "TRACE"
  | debug => "DEBUG"
  | info => "INFO"
  | warn => "WARN"
  | error => "ERROR"

end Level

/-- The parts of a run. -/
inductive Topic where
  | registry
  | channel
  | registrations
  | interests
  | board
  | run
  deriving DecidableEq, Repr

/-- The activities of a run. -/
inductive Activity where
  | registrations
  | interests
  | board
  deriving DecidableEq, Repr

/-- Something that happened in a run. -/
inductive Notice where
  | storeShutDown (size : Nat)
  | channelLagged (id missed : Nat)
  | channelFinished (id : Nat)
  | registrationsStarted (schedule : Schedule) (target : UInt64)
  | poolExhausted (registered : Nat) (batch : UInt64)
  | instanceRegistered (id : String)
  | nothingToRetire
  | instanceUnregistered (id : String)
  | chainStopped (id : String) (cause : RegistryError) (skipped total : Nat)
  | chainApplied (total : Nat)
  | registrationTick (registered unregistered : Nat)
  | registrationsEnded
  | interestsStarted (schedule : Schedule) (target : UInt64)
  | queriesExhausted (opened : Nat)
  | channelOpened (id : Nat) (interest : Interest)
  | channelClosed (id : Nat)
  | interestTick (opened closed : Nat)
  | interestsEnded (active : Nat)
  | boardFailed (reason : String)
  | boardEnded
  | topologyMade (name : String) (instances applications : UInt64)
  | alreadyStarted (activity : Activity)
  | durationSet (seconds : UInt64)
  | interrupted
  | finishing
  | finalBoard (snapshot : Snapshot) (pool active : Nat)
  deriving DecidableEq, Repr

namespace Notice

def level : Notice → Level
  | storeShutDown _ => .debug
  | channelLagged _ _ => .debug
  | channelFinished _ => .trace
  | registrationsStarted _ _ => .info
  | poolExhausted _ _ => .warn
  | instanceRegistered _ => .debug
  | nothingToRetire => .debug
  | instanceUnregistered _ => .debug
  | chainStopped _ _ _ _ => .warn
  | chainApplied _ => .trace
  | registrationTick _ _ => .trace
  | registrationsEnded => .info
  | interestsStarted _ _ => .info
  | queriesExhausted _ => .warn
  | channelOpened _ _ => .debug
  | channelClosed _ => .debug
  | interestTick _ _ => .trace
  | interestsEnded _ => .info
  | boardFailed _ => .warn
  | boardEnded => .info
  | topologyMade _ _ _ => .info
  | alreadyStarted _ => .warn
  | durationSet _ => .info
  | interrupted => .info
  | finishing => .info
  | finalBoard _ _ _ => .info

def topic : Notice → Topic
  | storeShutDown _ => .registry
  | channelLagged _ _ | channelFinished _ => .channel
  | registrationsStarted _ _ | poolExhausted _ _ | instanceRegistered _ | nothingToRetire
  | instanceUnregistered _ | chainStopped _ _ _ _ | chainApplied _ | registrationTick _ _
  | registrationsEnded => .registrations
  | interestsStarted _ _ | queriesExhausted _ | channelOpened _ _ | channelClosed _
  | interestTick _ _ | interestsEnded _ => .interests
  | boardFailed _ | boardEnded => .board
  | topologyMade _ _ _ | alreadyStarted _ | durationSet _ | interrupted | finishing
  | finalBoard _ _ _ => .run

/-- A number in a sentence. -/
def num (n : Nat) : String := String.ofList (decimal n)

/-- The pace of a schedule: its interval, its batch and the rate that they amount to. -/
def pace (s : Schedule) : String :=
  String.ofList s.interval.text ++ " with batches of " ++ num s.batch.toNat ++ " (" ++
    String.ofList s.effectiveRate.fixedText ++ "/s, target "

/-- What an activity is called at the start of a sentence. -/
def activityName : Activity → String
  | .registrations => "Registry updates"
  | .interests => "Interest subscriptions"
  | .board => "Score board watcher"

/-- The wording of a notice. -/
def text : Notice → String
  | storeShutDown size => "Registry shut down with " ++ num size ++ " instances"
  | channelLagged id missed =>
    "Interest channel " ++ num id ++ " lagged, " ++ num missed ++ " notifications dropped"
  | channelFinished id => "Interest channel " ++ num id ++ " drain task finished"
  | registrationsStarted schedule target =>
    "Starting registry updates every " ++ pace schedule ++ "size " ++ num target.toNat ++ ")"
  | poolExhausted registered batch =>
    "Run out of available instances after " ++ num registered ++ " of " ++ num batch.toNat ++
      " registrations"
  | instanceRegistered id => "Registered instance " ++ id
  | nothingToRetire => "No active registrations left to retire"
  | instanceUnregistered id => "Unregistered instance " ++ id
  | chainStopped id cause skipped total =>
    "Data injection batch terminated due to an error on instance " ++ id ++ ": " ++
      cause.message ++ " (" ++ num skipped ++ " of " ++ num total ++ " calls skipped)"
  | chainApplied total => "Applied " ++ num total ++ " registry calls"
  | registrationTick registered unregistered =>
    "Registration tick: " ++ num registered ++ " registered, " ++ num unregistered ++
      " unregistered"
  | registrationsEnded => "Data injection terminated"
  | interestsStarted schedule target =>
    "Starting interest subscriptions every " ++ pace schedule ++ "level " ++ num target.toNat ++
      ")"
  | queriesExhausted opened =>
    "Interest query sequence exhausted after " ++ num opened ++ " subscriptions"
  | channelOpened id interest => "Opened interest channel " ++ num id ++ " for " ++ interest.text
  | channelClosed id => "Closed interest channel " ++ num id
  | interestTick opened closed =>
    "Interest tick: " ++ num opened ++ " opened, " ++ num closed ++ " closed"
  | interestsEnded active =>
    "Interest subscription injection terminated with " ++ num active ++ " open channels"
  | boardFailed reason => "Failed to render score board: " ++ reason
  | boardEnded => "Score board watcher terminated"
  | topologyMade name instances applications =>
    "Generated topology " ++ name ++ " with " ++ num instances.toNat ++ " instances over " ++
      num applications.toNat ++ " applications"
  | alreadyStarted activity => activityName activity ++ " already started"
  | durationSet seconds => "Test execution time is " ++ num seconds.toNat ++ "[sec]..."
  | interrupted => "Test interrupted, shutting down early"
  | finishing => "Finishing the test. All actors will be terminated..."
  | finalBoard snapshot pool active =>
    "Final score board:\n" ++ String.ofList snapshot.tableText ++ "\nService pool " ++ num pool ++
      " + active registrations " ++ num active ++ " = " ++ num (pool + active) ++ " instances"

end Notice

/-- The notices of a run, latest first. -/
structure Journal where
  latest : List Notice := []
  deriving Repr

namespace Journal

def note (j : Journal) (n : Notice) : Journal := ⟨n :: j.latest⟩

def noteAll (j : Journal) (ns : List Notice) : Journal := ns.foldl note j

/-- The notices in the order in which they were given. -/
def notices (j : Journal) : List Notice := j.latest.reverse

end Journal

/-- What is said when a registry is shut down; nothing if it has been before. -/
def Store.shutDownNotices (s : Store) : List Notice :=
  if s.isShutDown then [] else [.storeShutDown s.size]

end RegistryLoad
