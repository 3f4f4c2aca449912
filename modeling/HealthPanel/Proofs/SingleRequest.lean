import HealthPanel.Http.Response
import HealthPanel.Proofs.Health.Classification
import HealthPanel.Proofs.Panel.Transition

/-!
# How many requests a check sends

An activation checks its backend once, and a check sends one request unless the response to it is
a redirect that is followed. Then it sends more, and the status of the first response no longer
decides what it shows.
-/

namespace HealthPanel

/-! ## One check for each activation -/

namespace Panel

variable {panel later : Panel} {action : Action} {task : Nat}

/-- A task comes to send its request: it runs for the first time, and the signal is not raised. -/
def Asks (task : Nat) (panel : Panel) (action : Action) : Prop :=
  action = .start task ∧ (∃ seen, panel.phase? task = some (.spawned seen)) ∧
    panel.signal.isRaised = false

/-- A task that has run exists, and is not as it was made. -/
def HasRun (task : Nat) (panel : Panel) : Prop :=
  ∃ phase, panel.phase? task = some phase ∧ ∀ seen, phase ≠ .spawned seen

/-- A task that has run is never again as it was made. -/
theorem Transition.hasRun (h : Transition panel action later) (ran : panel.HasRun task) :
    later.HasRun task :=
  h.keeps_phase (fun move _ => by cases move <;> simp) ran

/-- A task that asks has run. -/
theorem Asks.hasRun (h : panel.Asks task action) : (panel.step action).HasRun task := by
  obtain ⟨rfl, ⟨seen, hspawned⟩, quiet⟩ := h
  obtain ⟨asked, hentry⟩ := phase?_eq_some_iff.mp hspawned
  have hmoved := (TaskMove.ask quiet).getElem?_step hentry
  exact ⟨.probing seen, by simp [phase?, hmoved], by simp⟩

end Panel

/-! ## One request for each check -/

namespace Probe

variable {probe : Probe} {network : Http.Network}

/-- The requests of a check are those that redirects lead to, as far as connections are made. -/
theorem getElem?_requests_eq_some_iff {number : Nat} {request : Http.Request} :
    (probe.requests network)[number]? = some request ↔
      ∃ first last reply, probe.request = .ok first ∧ number ≤ Http.maxRedirects ∧
        Relation.ReflTransGen (Redirects network (probe.deadline network)) ⟨0, 0, first⟩ last ∧
        last.earlier = number ∧ last.request = request ∧
        connect network last.earlier last.request = .accepted reply := by
  cases hrequest : probe.request with
  | error fault => simp [requests, trace_of_error hrequest]
  | ok first =>
    rw [requests, trace_of_ok hrequest, getElem?_requests_send ⟨0, 0, first⟩]
    simp only [Nat.zero_add]
    constructor
    · intro hparts
      obtain ⟨hle, last, reply, hreaches, hearlier, hlast, accepted⟩ := hparts
      exact ⟨first, last, reply, rfl, hle, hreaches, hearlier, hlast, accepted⟩
    · intro hparts
      obtain ⟨first', last, reply, hfirst, hle, hreaches, hearlier, hlast, accepted⟩ := hparts
      obtain rfl := Except.ok.inj hfirst
      exact ⟨hle, last, reply, hreaches, hearlier, hlast, accepted⟩

end Probe

/-- The probe of a backend on this machine. -/
def loopback : Probe := .ofConfig ⟨"http://[::1]"⟩ .default

/-- The first request of that probe. -/
def loopbackRequest : Http.Request :=
  { url :=
      { scheme := "http", username := "", password := none
        host := some (.ipv6 ⟨[0, 0, 0, 0, 0, 0, 0, 1]⟩), port := none
        path := .segments ["health"], query := none, fragment := none }
    userAgent := some "status-probe/0.1.0", authorization := none, referer := none }

/-- The URL of the probe makes a request. -/
theorem request_loopback : loopback.request = .ok loopbackRequest := by decide +kernel

/-- That probe has some time. -/
theorem deadline_loopback_pos (network : Http.Network) : 0 < loopback.deadline network := by
  rw [loopback, Probe.deadline_ofConfig]
  decide

/-- A reply that comes in at once, as lines and a body. -/
def plainReply (lines : List String) (body : String) : Http.Reply :=
  .complete ((lines ++ [""]).flatMap Http.Response.line ++ Utf8.encode body)

/-- A backend that first sends its clients elsewhere, and then answers with a document. -/
def elsewhere : Http.Network :=
  .ofConnections [.accepted (plainReply ["HTTP/1.1 302 Found", "Location: /other"] ""),
    .accepted (plainReply ["HTTP/1.1 200 OK"] "\x7b\x7d")]

end HealthPanel
