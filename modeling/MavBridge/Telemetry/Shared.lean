import MavBridge.Telemetry

/-!
The states of vehicles, told to the same listeners.

Every state has one reader, and only its reader changes it. A message is folded in by four steps:
the state is changed, the listeners are asked for, the state is copied, and the copy is told.
Between any two of them everybody else goes on: subscriptions come and go, something else is told,
and other readers work. A reader takes no step that is not its next.
-/

namespace MavBridge

/-- How far a reader has come with a message. -/
inductive FoldStage where
  | idle
  | folded
  /-- Somebody listens. -/
  | heard
  | copied (telemetry : Telemetry)
  deriving DecidableEq, Repr

structure FeedReader where
  telemetry : Telemetry := {}
  stage : FoldStage := .idle
  deriving DecidableEq, Repr

/-- The readers by their numbers, and whom they tell. -/
structure SharedFeeds where
  hub : EventHub := {}
  reader : Nat → FeedReader := fun _ => {}

namespace SharedFeeds

def setReader (feeds : SharedFeeds) (number : Nat) (reader : FeedReader) : SharedFeeds :=
  { feeds with reader := fun other => if other = number then reader else feeds.reader other }

def setStage (feeds : SharedFeeds) (number : Nat) (stage : FoldStage) : SharedFeeds :=
  feeds.setReader number { feeds.reader number with stage }

/-- The reader changes its state; a message without telemetry is done with at once. -/
def fold (feeds : SharedFeeds) (number : Nat) (message : Decoded) (time : Nat) : SharedFeeds :=
  match (feeds.reader number).stage, (feeds.reader number).telemetry.after? message time with
  | .idle, some telemetry => feeds.setReader number ⟨telemetry, .folded⟩
  | _, _ => feeds

/-- The reader asks whether anyone listens. -/
def listen (feeds : SharedFeeds) (number : Nat) : SharedFeeds :=
  match (feeds.reader number).stage with
  | .folded =>
      let (listening, hub) := feeds.hub.hasSubscribers
      { feeds with hub }.setStage number (if listening then .heard else .idle)
  | _ => feeds

/-- The reader copies its state. -/
def copy (feeds : SharedFeeds) (number : Nat) : SharedFeeds :=
  match (feeds.reader number).stage with
  | .heard => feeds.setStage number (.copied (feeds.reader number).telemetry)
  | _ => feeds

/-- The reader tells its copy. -/
def tell (feeds : SharedFeeds) (number : Nat) : SharedFeeds :=
  match (feeds.reader number).stage with
  | .copied telemetry =>
      { feeds with hub := feeds.hub.notify ⟨"telemetry", telemetry.toJson⟩ }.setStage number .idle
  | _ => feeds

inductive Step where
  | subscribe
  | drop (subscription : Nat)
  /-- Somebody takes what is queued for a subscription. -/
  | drain (subscription : Nat)
  /-- Somebody other than a reader asks for listeners. -/
  | ask
  /-- Somebody other than a reader tells something. -/
  | notify (event : Event)
  | fold (reader : Nat) (message : Decoded) (time : Nat)
  | listen (reader : Nat)
  | copy (reader : Nat)
  | tell (reader : Nat)

def step (feeds : SharedFeeds) : Step → SharedFeeds
  | .subscribe => { feeds with hub := feeds.hub.subscribe.2 }
  | .drop subscription => { feeds with hub := feeds.hub.drop subscription }
  | .drain subscription => { feeds with hub := (feeds.hub.drain subscription).2 }
  | .ask => { feeds with hub := feeds.hub.hasSubscribers.2 }
  | .notify event => { feeds with hub := feeds.hub.notify event }
  | .fold reader message time => feeds.fold reader message time
  | .listen reader => feeds.listen reader
  | .copy reader => feeds.copy reader
  | .tell reader => feeds.tell reader

def run (feeds : SharedFeeds) (steps : List Step) : SharedFeeds := steps.foldl step feeds

end SharedFeeds

end MavBridge
