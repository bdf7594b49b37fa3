import Lecoo.Daemon.FanModes

namespace Lecoo.Daemon

open Lecoo.Effects Lecoo.Ipc Lecoo.Ec Lecoo.Data Fallible

/-! # Fans in manual override

A fan is put in override by its policy cell and gets its speed from its duty
cell.  The two are watched after every register access, together with the duty
that the request or the settings ask for which put the fan in override.
-/

variable {codec : SettingsCodec} {ec : EcDevice} {thread : ThreadId}

structure FanPoint where
  memory : EcMemory
  /-- While the fan is in override because the daemon put it there, what was asked for: a
  duty, or nothing when no override was. -/
  asked : FanIndex → Option (Option UInt8)

/-- A fan in override runs at the duty that was asked for. -/
def FanPoint.Safe (ec : EcDevice) (point : FanPoint) : Prop :=
  ∀ fan asked, point.asked fan = some asked →
    point.memory (ec.address (.thermalPolicy fan)) = 0x40 →
    asked = some (point.memory (ec.address (.fanDuty fan)))

/-- The present point, and one for every access made so far. -/
structure FanWatch where
  present : FanPoint
  points : List FanPoint

/-- A policy write of `0x40` puts the fan in override for the request that made
it, or keeps it there; any other value gives it back to the EC.  The duty write
of a request hands a fan in override over to it. -/
def askedAfter (ec : EcDevice) (request : FanIndex → Option UInt8) (addr : UInt16) (value : UInt8)
    (asked : FanIndex → Option (Option UInt8)) (fan : FanIndex) : Option (Option UInt8) :=
  if addr = ec.address (.thermalPolicy fan) then
    if value = 0x40 then some ((asked fan).getD (request fan)) else none
  else if addr = ec.address (.fanDuty fan) then
    (asked fan).map fun _ => request fan
  else
    asked fan

def noteAccess (ec : EcDevice) (request : FanIndex → Option UInt8)
    (asked : FanIndex → Option (Option UInt8)) :
    Access → Option String → FanIndex → Option (Option UInt8)
  | .write addr value, none => askedAfter ec request addr value asked
  | _, _ => asked

def watchAccess (ec : EcDevice) (request : FanIndex → Option UInt8) :
    Semantics registers (Option String) FanWatch :=
  fun access choice watch =>
    let answered := accessSemantics access choice watch.present.memory
    let present : FanPoint :=
      { memory := answered.2, asked := noteAccess ec request watch.present.asked access choice }
    (answered.1, { present, points := present :: watch.points })

/-- The daemon's state, the settings each thread has read last, and the fans. -/
structure Watched where
  world : World
  serving : ThreadId → Option CurrentSettings
  asked : FanIndex → Option (Option UInt8)
  points : List FanPoint

def Watched.start (world : World) : Watched := ⟨world, fun _ => none, fun _ => none, []⟩

def Watched.present (state : Watched) : FanPoint := ⟨state.world.ec, state.asked⟩

/-- The duty cell of a fan in override holds the duty that was asked for, whatever has
become of the policy cell. -/
def FanPoint.Steady (ec : EcDevice) (point : FanPoint) : Prop :=
  ∀ fan asked, point.asked fan = some asked →
    asked = some (point.memory (ec.address (.fanDuty fan)))

/-- Fans in override run at the duty that was asked for, now and at every point so far. -/
structure FanWatch.Good (ec : EcDevice) (watch : FanWatch) : Prop where
  steady : watch.present.Steady ec
  safe : ∀ point ∈ watch.points, point.Safe ec

theorem FanWatch.Good.extend {watch : FanWatch} {present : FanPoint} (good : watch.Good ec)
    (steady : present.Steady ec) :
    FanWatch.Good ec { present, points := present :: watch.points } := by
  refine ⟨steady, fun point member => ?_⟩
  rcases List.mem_cons.mp member with rfl | earlier
  · exact fun fan asked found _ => steady fan asked found
  · exact good.safe point earlier

theorem FanWatch.Good.tame {watch : FanWatch} {access : Access} (good : watch.Good ec)
    (tame : Tame ec access) (request : FanIndex → Option UInt8) (choice : Option String) :
    FanWatch.Good ec (watchAccess ec request access choice watch).2 := by
  refine good.extend fun fan duty asked => ?_
  cases access with
  | read addr =>
      cases choice <;> exact good.steady fan duty asked
  | write addr value =>
      cases choice with
      | some message => exact good.steady fan duty asked
      | none =>
          obtain ⟨notDuty, notOverride⟩ := tame fan
          simp only [noteAccess, askedAfter, if_neg notDuty] at asked
          simp only [accessSemantics]
          rw [Memory.write_other notDuty.symm]
          by_cases policy : addr = ec.address (.thermalPolicy fan)
          · simp only [policy, if_true, if_neg (notOverride policy)] at asked
            cases asked
          · rw [if_neg policy] at asked
            exact good.steady fan duty asked

theorem FanWatch.Good.run {α : Type} {body : EcBatch α} {watch : FanWatch}
    (tame : Uses (Tame ec) body) (request : FanIndex → Option UInt8)
    (choices : List (Option String)) (good : watch.Good ec) :
    FanWatch.Good ec (Program.run (watchAccess ec request) body.run choices watch).2 :=
  Program.Uses.preserves (fun before after : FanWatch => before.Good ec → after.Good ec) tame
    (fun _ => id) (fun first second => second ∘ first)
    (fun _ choice _ tame good => good.tame tame request choice)
    (Program.run_runs _ choices watch) good

def Watched.watch (state : Watched) : FanWatch := ⟨state.present, state.points⟩

end Lecoo.Daemon
