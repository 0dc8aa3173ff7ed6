import Dopamine.Program.Interleave
import Dopamine.Linux.Activation

/-!
# Requests inside requests

`uapiCommand` and `waitForTunnelName` process events while they wait, so a request from another
connection may run in the middle of an activation or a deactivation. Only `m_deactivating` guards
against that, and it makes a deactivation inside another one do nothing at all, although the outer
one may be the first half of an activation.

Requests behave as if they came one after another as long as none comes while another one waits,
except a deactivation while only deactivations wait. Nothing is up then when they have gone on
(`Tracked`).
-/

namespace Dopamine.Linux.LinuxUtils

open Prog Daemon WireguardUtilsLinux

variable {q : Platform}

/-- The daemon with the requests that wait in it. -/
abbrev Nest := Machine LinuxCall Daemon.State LinuxReply LinuxState Served

/-- What a request runs. -/
def job (q : Platform) (e : Served) : Job LinuxCall Daemon.State LinuxReply Served :=
  ⟨e, e.1.prog (utils q) q, e.2⟩

/-- A request is delivered, or the innermost one that waits goes on. -/
def deliver (q : Platform) : Nest → Option Served → Nest := Machine.step (exec q) waits (job q)

/-- The daemon when it starts, with nothing that waits. -/
def nestBoot (host : LinuxHost) : Nest := ⟨boot host, []⟩

/-- A request comes when nothing waits, or it is a deactivation that comes during another one, and
what waits are only deactivations. -/
def InOrder (m : Nest) : Option Served → Prop
  | none => True
  | some (.activate _, _) => m.waiting = []
  | some (.deactivate, _) =>
      m.waiting = [] ∨
        m.sys.vars.deactivating = true ∧ ∀ job ∈ m.waiting, job.request.1 = .deactivate

/-- What holds as long as requests come in order: nothing is up when all that waits has gone on, if
a deactivation is among it. -/
structure Tracked (q : Platform) (m : Nest) : Prop where
  sound : Sound (m.finish (exec q))
  down : ∀ job ∈ m.waiting, job.request.1 = .deactivate → Down (m.finish (exec q))

variable {s : World}

/-- A deactivation during another one does nothing. -/
theorem serveStep_deactivate_of_deactivating (h : s.vars.deactivating = true)
    (rs : List LinuxReply) : serveStep q s (.deactivate, rs) = s := by
  obtain ⟨⟨connections, counts, deactivating⟩, env⟩ := s
  obtain rfl : deactivating = true := h
  rfl

/-- A deactivation with nothing up changes nothing. -/
theorem serveStep_deactivate_of_down (h : Down s) (rs : List LinuxReply) :
    serveStep q s (.deactivate, rs) = s := by
  obtain ⟨⟨connections, counts, deactivating⟩, ⟨tunnel, device, monitor, routes, gateway, resolvers,
    service⟩⟩ := s
  obtain rfl : deactivating = false := h.idle
  obtain rfl : connections = fun _ => none := h.rest.connections
  obtain rfl : counts = [] := h.rest.counts
  obtain rfl : monitor = false := h.rest.monitor
  obtain rfl : resolvers = none := h.rest.resolvers
  obtain rfl : tunnel = .NotRunning := h.tunnel
  rfl

/-- A request in order might as well come at the end. -/
theorem finish_enter_of_inOrder (m : Nest) (e : Served) (h : InOrder m (some e))
    (hm : Tracked q m) :
    Machine.finish (exec q) (m.enter (exec q) waits (job q e)) =
      serveStep q (m.finish (exec q)) e := by
  obtain ⟨request, rs⟩ := e
  cases request with
  | activate config => exact Machine.finish_enter _ h
  | deactivate =>
    rcases h with hwaiting | ⟨hdeactivating, hwaiting⟩
    · exact Machine.finish_enter _ hwaiting
    cases hjobs : m.waiting with
    | nil => exact Machine.finish_enter _ hjobs
    | cons first jobs =>
      have hfirst : first ∈ m.waiting := hjobs ▸ List.mem_cons_self
      exact Machine.finish_enter_of_inert (serveStep_deactivate_of_deactivating hdeactivating rs)
        (serveStep_deactivate_of_down (hm.down first hfirst (hwaiting first hfirst)) rs)

theorem tracked_deliver (m : Nest) (e : Option Served) (h : InOrder m e) (hm : Tracked q m) :
    Tracked q (deliver q m e) := by
  cases e with
  | none =>
    have hfinish : Machine.finish (exec q) (deliver q m none) = m.finish (exec q) :=
      Machine.finish_answer m
    refine ⟨hfinish ▸ hm.sound, fun job hjob hrequest => ?_⟩
    obtain ⟨job', hjob', heq⟩ := Machine.mem_waiting_answer hjob
    exact hfinish ▸ hm.down job' hjob' (heq ▸ hrequest)
  | some e =>
    have hfinish : Machine.finish (exec q) (deliver q m (some e)) =
        serveStep q (m.finish (exec q)) e := finish_enter_of_inOrder m e h hm
    refine ⟨hfinish ▸ sound_serveStep _ e hm.sound, fun job hjob hrequest => ?_⟩
    obtain ⟨request, rs⟩ := e
    cases request with
    | deactivate => exact hfinish ▸ down_deactivate hm.sound rs
    | activate config =>
      -- nothing else waits, so what waits now is the activation
      rcases Machine.mem_waiting_enter _ hjob with heq | hold
      · rw [heq] at hrequest
        cases hrequest
      · rw [show m.waiting = [] from h] at hold
        cases hold

/-- However requests are delivered, as long as each one is in order, the state after all of them is
that of executing them one after another. In particular no tunnel is up after a deactivation that
came last. -/
theorem nested_requests_sequential (host : LinuxHost) {es : List (Option Served)}
    (hmeets : Trace.Meets (deliver q) InOrder (nestBoot host) es) :
    Machine.finish (exec q) (Trace.run (deliver q) (nestBoot host) es) =
        served q host es.reduceOption ∧
      ∀ before rs, es.reduceOption = before ++ [(.deactivate, rs)] →
        Down (Machine.finish (exec q) (Trace.run (deliver q) (nestBoot host) es)) := by
  have hfinish : Machine.finish (exec q) (Trace.run (deliver q) (nestBoot host) es) =
      served q host es.reduceOption :=
    Machine.finish_run tracked_deliver finish_enter_of_inOrder hmeets
      ⟨sound_boot host, fun _ h => nomatch h⟩
  refine ⟨hfinish, fun before rs hlast => ?_⟩
  rw [hfinish, hlast, served, Trace.run_concat]
  exact down_deactivate (sound_run host before) rs

/-- A second configuration, with another device address. -/
def otherConfig : InterfaceConfig := { blankConfig with deviceIpv4Address := "10.8.0.3" }

/-- The second of two deactivations comes while the first one waits in `deletePeer`. -/
theorem nested_requests_sample :
    Down (Machine.finish (exec .plain) (Trace.run (deliver .plain) (nestBoot bareHost)
      [some (.activate blankConfig, []), none, none, none, some (.deactivate, []),
        some (.deactivate, [])])) := by
  refine (nested_requests_sequential bareHost ?_).2
    [(.activate blankConfig, []), (.deactivate, [])] [] rfl
  refine ⟨rfl, trivial, trivial, trivial, .inl rfl, .inr ⟨rfl, fun job hjob => ?_⟩, trivial⟩
  rw [List.mem_singleton.mp hjob]
  rfl

/-- The tunnel is up with one configuration; an activation with another one deactivates it first,
and a deactivation comes in meanwhile. It comes last, and the tunnel is up in the end. -/
theorem nested_deactivate_lost :
    (Machine.finish (exec .plain) (Trace.run (deliver .plain) (nestBoot bareHost)
      [some (.activate blankConfig, []), none, none, none, some (.activate otherConfig, []),
        some (.deactivate, [])])).env.tunnel = .Running ∧
    (served .plain bareHost [(.activate blankConfig, []), (.activate otherConfig, []),
      (.deactivate, [])]).env.tunnel = .NotRunning := by
  decide +kernel

end Dopamine.Linux.LinuxUtils
