import Provenance.Settings.Basic
import Provenance.Tracking.Listener

/-!
The dispatcher of a session: listeners in the order of their registration, and the delivery of
events to them. A delivery goes by the list as it stands when the delivery begins and stops at the
first listener that fails; what listeners do to the list meanwhile holds from the next one on.
-/
namespace Provenance

/-- What a listener does when an event reaches it. -/
inductive Reaction where
  /-- It records the chain behind the event. -/
  | track
  | fail (message : String)
  /-- It takes back the registration that has a handle. -/
  | withdraw (handle : String)
  /-- It registers a new listener under a handle. -/
  | register (handle : String) (reactions : List Reaction)
  /-- It registers the listener of one handle once more, under another one. -/
  | registerAgain (handle known : String)
  deriving Repr, Inhabited

/-- A listener. Two listeners are the same if their serial numbers are; `name` is the handle that
the listener was first registered under. -/
structure Listener where
  serial : Nat
  name : String
  reactions : List Reaction
  deriving Repr

/-- Whether a listener is one that records chains. -/
def Listener.tracks (listener : Listener) : Bool :=
  listener.reactions.any fun
    | .track => true
    | _ => false

/-- The registered listeners; for each handle the listener that it takes back; and the listeners
known by handle, of which new registrations can be made. -/
structure Dispatcher where
  registered : List Listener := []
  handles : List (String × Listener) := []
  known : List (String × Listener) := []
  next : Nat := 0
  deriving Repr

namespace Dispatcher

/-- Registers a listener under a handle. -/
def attach (d : Dispatcher) (handle : String) (listener : Listener) : Dispatcher :=
  { d with
    registered := d.registered ++ [listener]
    handles := (handle, listener) :: d.handles
    known := (handle, listener) :: d.known }

/-- Registers a new listener with the given reactions. -/
def register (d : Dispatcher) (handle : String) (reactions : List Reaction) : Dispatcher :=
  { d.attach handle ⟨d.next, handle, reactions⟩ with next := d.next + 1 }

/-- Registers a known listener once more. -/
def registerAgain (d : Dispatcher) (handle known : String) : Dispatcher :=
  match d.known.lookup known with
  | none => d
  | some listener => d.attach handle listener

/-- Takes the first registration of the listener of a handle away, if there is one left. -/
def withdraw (d : Dispatcher) (handle : String) : Dispatcher :=
  match d.handles.lookup handle with
  | none => d
  | some listener =>
    { d with registered := d.registered.eraseP fun other => other.serial = listener.serial }

/-- The dispatcher of a new session: no listener is registered, and handles of before have no
effect on it. -/
def renewed (d : Dispatcher) : Dispatcher :=
  { d with registered := [], handles := [] }

/-- Registers a listener that records chains if the settings ask for records: a new one, or the one
of a handle. Whether it did is told. -/
def install (d : Dispatcher) (settings : Settings) (repository : Repository) (handle : String)
    (known : Option String) : Bool × Dispatcher × List LogEntry :=
  if settings.recordReverseTree.isTruthy then
    let d :=
      match known with
      | none => d.register handle [.track]
      | some known => d.registerAgain handle known
    (true, d, [.debug .listener s!"Recording reverse tree into {repository.base.text}"])
  else (false, d, [])

end Dispatcher

/-- What listeners act on. -/
structure Stage where
  dispatcher : Dispatcher
  files : FileSystem
  log : List LogEntry
  deriving Repr

/-- A reaction to an event, and the failure that it ends in. -/
def Reaction.run (disk : Disk) (event : Event) (stage : Stage) : Reaction → Option Failure × Stage
  | .track =>
    let effect := deliver .standard disk stage.files event
    let stage := { stage with files := effect.files, log := stage.log ++ effect.log }
    match effect.answer with
    | .ok _ => (none, stage)
    | .error failure => (some failure, stage)
  | .fail message => (some (.stated message), stage)
  | .withdraw handle => (none, { stage with dispatcher := stage.dispatcher.withdraw handle })
  | .register handle reactions =>
    (none, { stage with dispatcher := stage.dispatcher.register handle reactions })
  | .registerAgain handle known =>
    (none, { stage with dispatcher := stage.dispatcher.registerAgain handle known })

/-- Reactions one after the other, up to the first failure. -/
def runReactions (disk : Disk) (event : Event) : List Reaction → Stage → Option Failure × Stage
  | [], stage => (none, stage)
  | reaction :: rest, stage =>
    match reaction.run disk event stage with
    | (none, stage) => runReactions disk event rest stage
    | failed => failed

/-- What a delivery did: the listeners that were called, in order, the failure of the last of them,
and what is left behind. -/
structure Delivery where
  called : List Listener
  failure : Option Failure
  stage : Stage
  deriving Repr

/-- How listeners act: what each of them makes of the stage, and the failure that it ends in. -/
abbrev Conduct := Listener → Stage → Option Failure × Stage

/-- Calls listeners one after the other, up to the first that fails. -/
def callAll (conduct : Conduct) : List Listener → Stage → Delivery
  | [], stage => ⟨[], none, stage⟩
  | listener :: rest, stage =>
    match conduct listener stage with
    | (some failure, stage) => ⟨[listener], some failure, stage⟩
    | (none, stage) =>
      let delivery := callAll conduct rest stage
      { delivery with called := listener :: delivery.called }

/-- Calls the listeners that are registered now. -/
def Stage.callRegistered (stage : Stage) (conduct : Conduct) : Delivery :=
  callAll conduct stage.dispatcher.registered stage

/-- How listeners take an event: each goes through its reactions. -/
def Conduct.on (disk : Disk) (event : Event) : Conduct :=
  fun listener => runReactions disk event listener.reactions

/-- Delivers an event to the listeners that are registered now. -/
def Stage.dispatch (stage : Stage) (disk : Disk) (event : Event) : Delivery :=
  stage.callRegistered (.on disk event)

/-- Reports that an artifact was resolved, and delivers the event. -/
def Stage.announce (stage : Stage) (disk : Disk) (event : Event) : Delivery :=
  let message := s!"Dispatching {event.kind.name} for {event.artifact.text}"
  { stage with log := stage.log ++ [LogEntry.debug .events message] }.dispatch disk event

end Provenance
