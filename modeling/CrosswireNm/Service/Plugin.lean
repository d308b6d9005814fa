import CrosswireNm.Service.Config
import CrosswireNm.Service.State
import CrosswireNm.Service.SupervisorRuns

/-!
# The D-Bus object NetworkManager drives

Every method call runs in a task of its own and every `.await` may suspend it, so the service is
one machine whose steps are single pieces of handlers and of watchers, in any order. A call is
known by a number; the session a `do_connect` launches has the number of its call.
-/

namespace CrosswireNm.Service

open Library

/-- What the handler that empties the slot goes on to do: `do_connect` or `disconnect`. -/
inductive Goal
  | reconnect (launch : Launch)
  | down
  deriving DecidableEq, Repr

inductive Message
  | setConfig (session : Nat)
  | setIp4Config (session : Nat)
  deriving DecidableEq, Repr

/-- What is left to do of a method call. -/
inductive Task
  | fresh
  | finished
  /-- `do_connect`, which `Connect`, `ConnectInteractive` and `NewSecrets` all are -/
  | storeGateway (launch : Launch)
  | askSecrets (key : String)
  | enterStarting (launch : Launch)
  | spawn (launch : Launch)
  /-- the child runs, its stdin is being written -/
  | feed
  | storeSup
  | spawnFailed
  /-- `disconnect` -/
  | leave
  | settle
  /-- both take the `Supervisor` out of the slot and stop it, the slot locked until it is gone -/
  | take (goal : Goal)
  | stop (goal : Goal) (old : Nat)
  | awaitStop (goal : Goal) (old : Nat)
  | release (goal : Goal) (old : Nat)
  /-- `set_config`, which keeps the gateway locked while the host is resolved -/
  | readGateway (session : Nat)
  | resolve (session : Nat) (host : String)
  /-- `set_ip4_config` -/
  | ip4Config (session : Nat)
  | ip4Started (session : Nat)
  deriving DecidableEq, Repr

structure Session where
  launch : Launch
  watcher : Watcher
  deriving DecidableEq, Repr

structure Plugin where
  pppdPlugin : String
  ifname : String
  inner : Inner
  gateway : Option String
  /-- the call that has `gateway` locked -/
  gatewayGuard : Option Nat
  /-- the session whose `Supervisor` is in `Shared::supervisor` -/
  slot : Option Nat
  /-- the call that has `supervisor` locked -/
  slotGuard : Option Nat
  sessions : Nat → Option Session
  tasks : Nat → Task
  /-- calls the pppds have made and zbus has not dispatched -/
  inflight : List Message

def Plugin.start (pppdPlugin ifname : String) : Plugin :=
  { pppdPlugin, ifname, inner := .new, gateway := none, gatewayGuard := none, slot := none
    slotGuard := none, sessions := fun _ => none, tasks := fun _ => .fresh, inflight := [] }

inductive Label
  /-- NM makes a call -/
  | connect (h : Nat) (connection : Connection)
  | disconnect (h : Nat)
  /-- the pppd of a session makes a call, and later zbus dispatches it -/
  | send (message : Message)
  | deliver (h : Nat) (message : Message)
  /-- a call goes on -/
  | task (h : Nat)
  /-- the 10 s of `stop()` have passed -/
  | limit (h : Nat)
  /-- `spawn_child` yields an error -/
  | spawnError (h : Nat)
  | watch (i : Nat) (act : Act)

inductive Cause
  | connect (h : Nat)
  | disconnect (h : Nat)
  | setIp4Config (session : Nat)
  | watcher (session : Nat)
  deriving DecidableEq, Repr

inductive Event
  | signal (cause : Cause) (signal : Signal)
  | secretsRequired (h : Nat) (key : String)
  /-- `Config`, with the host it is to pin a route to -/
  | config (session : Nat) (host : Option String)
  | ip4Config (session : Nat)
  /-- a `stop()` returns, `timely` unless its limit has passed -/
  | stopReturned (session : Nat) (timely : Bool)
  deriving DecidableEq, Repr

def Plugin.setTask (s : Plugin) (h : Nat) (task : Task) : Plugin :=
  { s with tasks := Function.update s.tasks h task }

def Plugin.setSession (s : Plugin) (i : Nat) (session : Session) : Plugin :=
  { s with sessions := Function.update s.sessions i (some session) }

def Session.dropSender (session : Session) : Session :=
  { session with watcher := session.watcher.dropSender }

def Plugin.dropSup (s : Plugin) (i : Nat) : Plugin :=
  match s.sessions i with
  | some session => s.setSession i session.dropSender
  | none => s

def Plugin.drive (s : Plugin) (cause : Cause) (call : Call) : Plugin × List Event :=
  ({ s with inner := (s.inner.call call).1 }, (s.inner.call call).2.map (.signal cause))

def Goal.next : Goal → Task
  | .reconnect launch => .enterStarting launch
  | .down => .settle

/-- What a watcher's events make of the state machine. -/
def Report.call : Report → Call
  | .stopped => .to .stopped
  | .failed => .fail .connectFailed

def Plugin.hear (s : Plugin) (i : Nat) (out : List WatcherEvent) : Plugin × List Event :=
  match out with
  | [.report report] => s.drive (.watcher i) report.call
  | _ => (s, [])

/-- The next piece of a call. -/
def Plugin.advance (s : Plugin) (h : Nat) : Task → Option (Plugin × List Event)
  | .fresh | .finished => none
  | .storeGateway launch =>
    if s.gatewayGuard = none then
      let next := match launch.missingSecret with
        | some key => .askSecrets key
        | none => .take (.reconnect launch)
      some ({ s with gateway := launch.gateway }.setTask h next, [])
    else none
  | .askSecrets key => some (s.setTask h .finished, [.secretsRequired h key])
  | .leave =>
    let (t, out) := s.drive (.disconnect h) (.to .stopping)
    some (t.setTask h (.take .down), out)
  | .take goal =>
    if s.slotGuard = none then
      match s.slot with
      | some old =>
        some ({ s with slot := none, slotGuard := some h }.setTask h (.stop goal old), [])
      | none => some (s.setTask h goal.next, [])
    else none
  | .stop goal old =>
    match s.sessions old with
    | none => none
    | some session =>
      match session.watcher.send with
      | some watcher =>
        some ((s.setSession old { session with watcher }).setTask h (.awaitStop goal old), [])
      | none => some (s.setTask h (.release goal old), [.stopReturned old true])
  | .awaitStop goal old =>
    match s.sessions old with
    | none => none
    | some session =>
      if session.watcher.answered then
        some (s.setTask h (.release goal old), [.stopReturned old true])
      else none
  | .release goal old =>
    let (t, out) := match goal with
      | .reconnect _ => s.drive (.connect h) (.to .stopped)
      | .down => (s, [])
    some ({ t.dropSup old with slotGuard := none }.setTask h goal.next, out)
  | .settle =>
    let (t, out) := s.drive (.disconnect h) (.to .stopped)
    some (t.setTask h .finished, out)
  | .enterStarting launch =>
    let (t, out) := s.drive (.connect h) (.to .starting)
    some (t.setTask h (.spawn launch), out)
  | .spawn launch =>
    some ((s.setSession h ⟨launch, .spawned⟩).setTask h .feed, [])
  | .feed =>
    match s.sessions h with
    | none => none
    | some session =>
      some ((s.setSession h { session with watcher := session.watcher.watched }).setTask h
        .storeSup, [])
  | .storeSup =>
    if s.slotGuard = none then
      let t := match s.slot with
        | some old => s.dropSup old
        | none => s
      some ({ t with slot := some h }.setTask h .finished, [])
    else none
  | .spawnFailed =>
    let (t, out) := s.drive (.connect h) (.fail .connectFailed)
    some (t.setTask h .finished, out)
  | .readGateway session =>
    if s.gatewayGuard = none then
      match s.gateway with
      | some host => some ({ s with gatewayGuard := some h }.setTask h (.resolve session host), [])
      | none => some (s.setTask h .finished, [.config session none])
    else none
  | .resolve session host =>
    some ({ s with gatewayGuard := none }.setTask h .finished, [.config session (some host)])
  | .ip4Config session => some (s.setTask h (.ip4Started session), [.ip4Config session])
  | .ip4Started session =>
    let (t, out) := s.drive (.setIp4Config session) (.to .started)
    some (t.setTask h .finished, out)

def Message.task : Message → Task
  | .setConfig session => .readGateway session
  | .setIp4Config session => .ip4Config session

def Message.session : Message → Nat
  | .setConfig session | .setIp4Config session => session

/-- A watcher reads the state only as it is. -/
def Act.sees (act : Act) (state : ServiceState) : Bool :=
  match act with
  | .judge seen => seen == state
  | _ => true

def Plugin.step : Step Plugin Label Event := fun s label =>
  match label with
  | .connect h connection =>
    if s.tasks h = .fresh then
      some (s.setTask h (.storeGateway (mapConnection connection s.pppdPlugin s.ifname false)), [])
    else none
  | .disconnect h => if s.tasks h = .fresh then some (s.setTask h .leave, []) else none
  | .send message =>
    if (s.sessions message.session).isSome then
      some ({ s with inflight := message :: s.inflight }, [])
    else none
  | .deliver h message =>
    if s.tasks h = .fresh ∧ message ∈ s.inflight then
      some ({ s with inflight := s.inflight.erase message }.setTask h message.task, [])
    else none
  | .task h => s.advance h (s.tasks h)
  | .limit h =>
    match s.tasks h with
    | .awaitStop goal old => some (s.setTask h (.release goal old), [.stopReturned old false])
    | _ => none
  | .spawnError h =>
    match s.tasks h with
    | .spawn _ => some (s.setTask h .spawnFailed, [])
    | _ => none
  | .watch i act =>
    match s.sessions i with
    | none => none
    | some session =>
      if act.sees s.inner.state then
        match session.watcher.step act with
        | none => none
        | some (watcher, out) => some ((s.setSession i { session with watcher }).hear i out)
      else none

end CrosswireNm.Service
