import TrackTimer.Services.Listeners
import TrackTimer.Session.Update

/-! # Timekeepers

A timekeeper is a session together with the services around it. It carries out one operation at a
time: a fix first advances the odometer, if the clock runs, and then updates the session, and the
listening services hear what the session tells them.
-/

namespace TrackTimer

structure Timekeeper (L R : Type) where
  session : Session
  launch : L
  resolver : R
  timer : CrossingLog
  odometer : Odometer
deriving DecidableEq

inductive Operation where
  /-- A fix arrives while the given configuration is in force. -/
  | fix (config : TrackConfig) (fix : Fix)
  | reset
  /-- The session is emptied, and the predictive timer with it. -/
  | startSession
  | resetLapCount
  | configChanged
deriving DecidableEq

structure Response where
  /-- The flags of the update, if there was one. -/
  flags : Option Flags
  /-- What the services were told. -/
  calls : List Call
  log : List Message
deriving DecidableEq

namespace Timekeeper

variable {L R : Type}

/-- A new session with services that have heard nothing. -/
def new (launch : L) (resolver : R) : Timekeeper L R :=
  ⟨.new, launch, resolver, .empty, .zero⟩

/-- Lets the listening services hear calls. -/
def hear (keeper : Timekeeper L R) (calls : List Call) : Timekeeper L R :=
  { keeper with
    timer := calls.foldl CrossingLog.hear keeper.timer
    odometer := calls.foldl Odometer.hear keeper.odometer }

/-- Advances the odometer to a fix, if the clock runs, whatever its quality. -/
def drive (keeper : Timekeeper L R) (fix : Fix) : Timekeeper L R :=
  if fix.isCold then keeper else { keeper with odometer := keeper.odometer.advance fix.point }

variable [LaunchControl L] [TrackResolver R]

def update (keeper : Timekeeper L R) (usable : Quality → Bool) (config : TrackConfig) (fix : Fix) :
    Timekeeper L R × Response :=
  let outcome := keeper.session.update usable config fix keeper.launch keeper.resolver
  ({ keeper with
      session := outcome.session
      launch := outcome.launch
      resolver := outcome.resolver }.hear outcome.calls,
    ⟨some outcome.flags, outcome.calls, outcome.log⟩)

def step (usable : Quality → Bool) (keeper : Timekeeper L R) :
    Operation → Timekeeper L R × Response
  | .fix config fix => (keeper.drive fix).update usable config fix
  | .reset => ({ keeper with session := .new }, ⟨none, [], []⟩)
  | .startSession => ({ keeper with session := .new }.hear [.timerReset], ⟨none, [.timerReset], []⟩)
  | .resetLapCount => ({ keeper with session := keeper.session.resetLapCount }, ⟨none, [], []⟩)
  | .configChanged => ({ keeper with session := keeper.session.configChanged }, ⟨none, [], []⟩)

/-- Carries out operations one after the other and gives the timekeeper and the response after
each. -/
def trace (usable : Quality → Bool) :
    Timekeeper L R → List Operation → List (Timekeeper L R × Response)
  | _, [] => []
  | keeper, operation :: rest =>
    let next := keeper.step usable operation
    next :: trace usable next.1 rest

def run (usable : Quality → Bool) (keeper : Timekeeper L R) (operations : List Operation) :
    Timekeeper L R :=
  operations.foldl (fun keeper operation => (keeper.step usable operation).1) keeper

end Timekeeper

end TrackTimer
