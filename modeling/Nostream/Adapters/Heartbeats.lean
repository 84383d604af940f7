import Nostream.Adapters.WebSocketAdapter
import Nostream.Shared.Latch
import Nostream.Shared.Runs

set_option autoImplicit false

namespace Nostream.Heartbeats

open Utf16 Latch
open Runs hiding execute

structure ProbedConnection where
  connection : Connection := {}
  alive : Bool := true
  pings : Nat := 0

inductive Action where
  | message (action : WebSocketAdapter.Action)
  | heartbeat
  | clientPing
  | clientPong

namespace ProbedConnection

variable (probed : ProbedConnection)

def adapter : WebSocketAdapter := probed.connection.adapter

def withAdapter (adapter : WebSocketAdapter) : ProbedConnection :=
  { probed with connection := { probed.connection with adapter := adapter } }

-- A client that holds a subscription is not given up.
def onHeartbeat : ProbedConnection :=
  if !probed.alive && probed.adapter.subscriptions.size == 0 then
    probed.withAdapter { probed.adapter with isOpen := false }
  else { probed with alive := false, pings := probed.pings + 1 }

end ProbedConnection

-- What onClientMessage and onClientClose do to the flag besides what they do to the connection.
def flagged (alive : Bool) : WebSocketAdapter.Action → Bool
  | .receive _ => true
  | .close => false
  | _ => alive

-- Without its listeners the adapter hears neither its client nor its server.
def step (settings : Settings) (probed : ProbedConnection) : Action → Option ProbedConnection
  | .message action => (probed.connection.step settings action).map fun reached =>
      { probed with connection := reached, alive := flagged probed.alive action }
  | .heartbeat => some (if probed.adapter.isAttached then probed.onHeartbeat else probed)
  | .clientPing => some (if probed.adapter.isAttached then { probed with alive := true } else probed)
  | .clientPong => some (if probed.adapter.isAttached then { probed with alive := true } else probed)

def isSignOfLife : Action → Bool
  | .message (.receive _) => true
  | .clientPing => true
  | .clientPong => true
  | _ => false

def isHeartbeat : Action → Bool
  | .heartbeat => true
  | _ => false

theorem onHeartbeat_alive (probed : ProbedConnection) : probed.onHeartbeat.alive = false := by
  unfold ProbedConnection.onHeartbeat
  split
  next silent =>
    rw [Bool.and_eq_true, Bool.not_eq_true'] at silent
    exact silent.1
  next => rfl

theorem message_attached (settings : Settings) (connection reached : Connection) (action : WebSocketAdapter.Action)
    (taken : connection.step settings action = some reached) (attached : reached.adapter.isAttached = true) :
    connection.adapter.isAttached = true ∧ flagged true action = true := by
  obtain ⟨messages, stepped, _⟩ := Connection.step_cases settings connection reached action taken
  generalize reached.adapter = after at stepped attached
  cases stepped with
  | received frame was => exact ⟨was, rfl⟩
  | subscribed =>
    rw [← WebSocketAdapter.emitSubscribe_isAttached]
    exact ⟨attached, rfl⟩
  | unsubscribed =>
    rw [← WebSocketAdapter.emitUnsubscribe_isAttached]
    exact ⟨attached, rfl⟩
  | closed => cases attached
  | _ => exact ⟨attached, rfl⟩

theorem step_attached (settings : Settings) (probed reached : ProbedConnection) (action : Action)
    (taken : step settings probed action = some reached) (attached : reached.adapter.isAttached = true) :
    probed.adapter.isAttached = true ∧ reached.alive = next isSignOfLife isHeartbeat probed.alive action := by
  cases action with
  | message action =>
    obtain ⟨connection, stepped, rfl⟩ := Option.map_eq_some_iff.mp taken
    obtain ⟨was, kept⟩ := message_attached settings probed.connection connection action stepped attached
    refine ⟨was, ?_⟩
    cases action with
    | close => cases kept
    | _ => rfl
  | heartbeat =>
    cases taken
    split at attached
    next was => exact ⟨was, by rw [if_pos was, onHeartbeat_alive]; rfl⟩
    next was => exact absurd attached was
  | clientPing =>
    cases taken
    split at attached
    next was => exact ⟨was, by rw [if_pos was]; rfl⟩
    next was => exact absurd attached was
  | clientPong =>
    cases taken
    split at attached
    next was => exact ⟨was, by rw [if_pos was]; rfl⟩
    next was => exact absurd attached was

theorem run_alive (settings : Settings) (probed final : ProbedConnection) (trace : List Action)
    (run : Run (step settings) (fun _ _ => True) probed trace final) (attached : final.adapter.isAttached = true) :
    probed.adapter.isAttached = true ∧ final.alive = trace.foldl (next isSignOfLife isHeartbeat) probed.alive := by
  induction run with
  | done => exact ⟨attached, rfl⟩
  | next _ taken _ ih =>
    obtain ⟨middleAttached, folded⟩ := ih attached
    obtain ⟨was, alive⟩ := step_attached settings _ _ _ taken middleAttached
    exact ⟨was, by rw [folded, alive, List.foldl_cons]⟩

def Silent (trace : List Action) : Prop :=
  ∃ before after, trace = before ++ .heartbeat :: after ∧ ∀ action ∈ after, isSignOfLife action = false

theorem down_iff (trace : List Action) : trace.foldl (next isSignOfLife isHeartbeat) true = false ↔ Silent trace := by
  rw [foldl_down_iff]
  constructor
  · rintro (⟨up, _⟩ | ⟨before, action, after, split, _, isBeat, later⟩)
    · cases up
    · cases action with
      | heartbeat => exact ⟨before, after, split, later⟩
      | message | clientPing | clientPong => cases isBeat
  · rintro ⟨before, after, split, later⟩
    exact .inr ⟨before, .heartbeat, after, split, rfl, rfl, later⟩

structure Probes (final reached : ProbedConnection) (expires : Prop) : Prop where
  closes : expires → reached = final.withAdapter { final.adapter with isOpen := false }
  pings : ¬ expires → reached = { final with alive := false, pings := final.pings + 1 }

theorem heartbeat_expires (settings : Settings) (trace : List Action) (final : ProbedConnection)
    (run : Run (step settings) (fun _ _ => True) {} trace final) (attached : final.adapter.isAttached = true) :
    ∃ reached, step settings final .heartbeat = some reached ∧
      Probes final reached (final.adapter.subscriptions.size = 0 ∧ Silent trace) := by
  have alive := (run_alive settings {} final trace run attached).2
  have expired : (!final.alive && final.adapter.subscriptions.size == 0) = true ↔
      final.adapter.subscriptions.size = 0 ∧ Silent trace := by
    rw [Bool.and_eq_true, Bool.not_eq_true', beq_iff_eq, alive, down_iff, and_comm]
  refine ⟨final.onHeartbeat, by rw [step, if_pos attached], fun expires => ?_, fun kept => ?_⟩
  · exact if_pos (expired.mpr expires)
  · exact if_neg (mt expired.mp kept)

def quietClient : List Action :=
  [.message (.receive (closeFrame (js "quiet"))), .message (.checked 0 (.ok false)), .heartbeat]

theorem quiet_client_expires :
    ∃ final reached, Run (step WebSocketAdapter.unlimitedSettings) (fun _ _ => True) {} quietClient final ∧
      step WebSocketAdapter.unlimitedSettings final .heartbeat = some reached ∧ reached.adapter.isOpen = false := by
  have ran : (Runs.execute (step WebSocketAdapter.unlimitedSettings) (fun _ _ => True) {} quietClient).map
      (fun final => (final.adapter.isAttached, final.adapter.subscriptions.size)) = some (true, 0) := by
    decide +kernel
  obtain ⟨final, executed, values⟩ := Option.map_eq_some_iff.mp ran
  rw [Prod.mk.injEq] at values
  have run := run_of_execute executed
  obtain ⟨reached, beaten, probes⟩ := heartbeat_expires WebSocketAdapter.unlimitedSettings quietClient final run values.1
  have silent : Silent quietClient :=
    ⟨[.message (.receive (closeFrame (js "quiet"))), .message (.checked 0 (.ok false))], [], rfl, by simp⟩
  exact ⟨final, reached, run, beaten, by rw [probes.closes ⟨values.2, silent⟩]; rfl⟩

end Nostream.Heartbeats
