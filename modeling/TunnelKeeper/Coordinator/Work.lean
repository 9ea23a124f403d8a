import TunnelKeeper.Coordinator.Background
import TunnelKeeper.Coordinator.Setup

/-!
What a task does in its turn. An operation that was asked for reports how it ended; work that was
left to itself ends in silence.
-/

namespace TunnelKeeper.Coordinator

namespace Task

variable {P R : Type}

/-- The operation of an entry has come to a point, or it reports its result. -/
def report (entry : Nat) (point : P → Task) (result : R → Result) : Turn P R → World × Option Task
  | (w, .wait p) => (w, some (point p))
  | (w, .done r) => (w.record (.done entry (result r)), none)
  | (w, .panic) => (w.record (.done entry .panic), none)

/-- A task of its own has come to a point, or it is over. -/
def goOn (point : P → Task) : Turn P R → World × Option Task
  | (w, .wait p) => (w, some (point p))
  | (w, .done _) => (w, none)
  | (w, .panic) => (w, none)

/-- Begins with an operation that was asked for. -/
def begin (t : TaskId) (entry : Nat) (operation : Operation) (w : World) : World × Option Task :=
  match operation with
  | .load => report entry (.load entry) (fun _ => .ok) (Load.start w)
  | .start => ((w.spawn .startLoad).record (.done entry .ok), none)
  | .close => report entry (.teardown entry) (fun _ => .ok) (Teardown.start true w)
  | .stop => report entry (.teardown entry) (fun _ => .ok) (Teardown.start true w)
  | .connect => report entry (.connect entry) id (Connect.start t false w)
  | .disconnect => report entry (.disconnect entry) id (Disconnect.start w)
  | .request caller => report entry (.connect entry) id (Connect.request t caller w)
  | .check => report entry (.check entry) .check (Check.start w)
  | .refresh c => report entry (.refresh entry c) .token (Refresh.start t c w)
  | .lookUp c => report entry (fun _ => .lookUp entry c) .kept (Lookup.start t c w)

/-- Goes on to the next point, or to the end. -/
def resume (t : TaskId) (task : Task) (w : World) : World × Option Task :=
  match task with
  | asked entry operation => begin t entry operation w
  | load entry p => report entry (.load entry) (fun _ => .ok) (Load.resume p w)
  | teardown entry p => report entry (.teardown entry) (fun _ => .ok) (Teardown.resume p w)
  | connect entry a => report entry (.connect entry) id (Connect.resume t a w)
  | disconnect entry p => report entry (.disconnect entry) id (Disconnect.resume p w)
  | check entry p => report entry (.check entry) .check (Check.resume p w)
  | refresh entry c p => report entry (.refresh entry c) .token (Refresh.resume t c p w)
  | lookUp entry c => report entry (fun _ => .lookUp entry c) .kept (Lookup.resume t c w)
  | startLoad => goOn .detachedLoad (Load.start w)
  | detachedLoad p => goOn .detachedLoad (Load.resume p w)
  | setup p => goOn .setup (Setup.resume t p w)
  | autostart => goOn .autoconnect (Connect.start t false w)
  | autoconnect a => goOn .autoconnect (Connect.resume t a w)
  | handler p => goOn .handler (Handler.resume t p w)
  | guard generation p => goOn (.guard generation) (Guard.resume t generation p w)

end Task

end TunnelKeeper.Coordinator
