import TunnelKeeper.Coordinator.Work

/-!
Runs of the coordinator: operations are asked for, connections are lost, the host and the
collaborators change their minds, and the tasks take turns in between.
-/

namespace TunnelKeeper.Coordinator

namespace World

/-- The first TLS context is built, and the task that waits for it wakes. -/
def finishBuild? (w : World) : Option World :=
  match w.builds with
  | [] => none
  | t :: rest => some ({ w with builds := rest }.wake t)

/-- The end of a background task empties its slot. -/
def endTask (t : TaskId) (w : World) : World :=
  { w with handlerSlot := w.handlerSlot.finish t, guardSlot := w.guardSlot.finish t }

instance : Cooperative World Task where
  schedule := schedule
  withSchedule w s := { w with schedule := s }
  ready := ready
  alarm _ := alarm
  resume := Task.resume
  finish := endTask
  settle := finishBuild?

/-- Asks for an operation, in a task of its own. -/
def ask (operation : Operation) (w : World) : World :=
  { w.spawn (.asked w.nextEntry operation) with nextEntry := w.nextEntry + 1 }

/-- The relay drops the connection of a tunnel, or of the latest one. -/
def dropConnection (tunnel : Option TunnelId) (w : World) : World :=
  w.setConnected (tunnel.getD (w.tunnels.length - 1)) false

/-- A caller that waits for a token gives up. -/
def giveUp? (t : TaskId) (w : World) : Option World :=
  let leave (c : CycleId) : World :=
    { w with schedule := w.schedule.removeTask t }.leaveTokenLock c t
  match w.schedule.point? t with
  | some (.refresh _ c _) => some (leave c)
  | some (.lookUp _ c) => some (leave c)
  | _ => none

end World

/-- What is given before anything happens. -/
structure Setting where
  config : Config := {}
  /-- The time of the wall clock, in milliseconds since 1970. -/
  startMillis : Int := 0
  /-- What the wall clock shows beyond whole milliseconds. -/
  startNanos : Fin 1000000 := wholeMillis
  zone : Zone := .utc
  storage : Option Certificate := none
  runtimeReady : Bool := true
  autostart : Bool := false
  scripts : Scripts := {}
  draws : Nat → Nat := fun _ => 0

/-- The world in which nothing has happened yet. -/
def Setting.world (s : Setting) : World where
  config := s.config
  startMillis := s.startMillis
  startNanos := s.startNanos
  zone := s.zone
  storage := s.storage
  runtimeReady := s.runtimeReady
  autostart := s.autostart
  scripts := s.scripts
  draws := s.draws

end TunnelKeeper.Coordinator
