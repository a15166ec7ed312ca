import BridgeRelay.Duration
import BridgeRelay.Metrics
import BridgeRelay.Program

/-!
# The host

What every worker asks of the process it runs in: the time, sleep, the stop flag and the counters.
-/

namespace BridgeRelay

/-- A point in time, in nanoseconds since the process began. -/
abbrev Time := Nat

/-- A request to the host. -/
inductive HostRequest where
  | now
  | sleep (d : Duration)
  /-- sleeps, but wakes when stop is signalled -/
  | pause (d : Duration)
  | stopping
  | record (u : Metrics.Update)
  /-- ends the worker: a delay that cannot be slept -/
  | abort (fault : Duration.Fault)

/-- What a request to the host is answered with. -/
abbrev HostRequest.Answer : HostRequest → Type
  | .now => Time
  | .stopping => Bool
  | .abort _ => Empty
  | _ => Unit

/-- The interface of the host. -/
abbrev HostInterface : Interface := ⟨HostRequest, HostRequest.Answer⟩

/-- An interface through which the host can be asked. -/
class Hosted (I : Interface) where
  host : (r : HostRequest) → Program I r.Answer

namespace Host

variable {I : Interface} [Hosted I] {α : Type}

def now : Program I Time := Hosted.host .now

def sleep (d : Duration) : Program I Unit := Hosted.host (.sleep d)

def pause (d : Duration) : Program I Unit := Hosted.host (.pause d)

def stopping : Program I Bool := Hosted.host .stopping

def record (u : Metrics.Update) : Program I Unit := Hosted.host (.record u)

/-- The value, or the end of the worker if there is none. -/
def require : Except Duration.Fault α → Program I α
  | .ok a => .done a
  | .error fault => (Hosted.host (.abort fault)).bind (fun e : Empty => nomatch e)

end Host

end BridgeRelay
