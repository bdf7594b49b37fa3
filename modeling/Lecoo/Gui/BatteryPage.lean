import Lecoo.Effects.Machine
import Lecoo.Gui.TelemetryHistory
import Lecoo.Ipc.Structs

namespace Lecoo.Gui

open Lecoo.Effects Machine Lecoo.Ipc

/-! # The battery page -/

/-- The bounds of the charge limit as a sample reports them. -/
structure ChargeLimits where
  chargeLimitMin : Nat
  chargeLimitMax : Nat
deriving Repr, DecidableEq

abbrev ChargeSample := TelemetrySample ChargeLimits

def limits : List (ChargeLimit × ChargeLimits) :=
  [(.fullCapacity, ⟨0, 0⟩), (.highCapacity, ⟨90, 95⟩), (.balanced, ⟨70, 80⟩),
    (.maximumLifespan, ⟨55, 60⟩), (.deskMode, ⟨40, 50⟩)]

def limitFromPercents (min max : Nat) : Option ChargeLimit :=
  (limits.find? fun l => l.2.chargeLimitMin = min && l.2.chargeLimitMax = max).map Prod.fst

def ChargeLimits.decoded (bounds : ChargeLimits) : Option ChargeLimit :=
  limitFromPercents bounds.chargeLimitMin bounds.chargeLimitMax

/-- The bounds the daemon puts in force for a preset. -/
def ChargeLimits.of (limit : ChargeLimit) : ChargeLimits where
  chargeLimitMin := limit.asPercent.1.toNat
  chargeLimitMax := limit.asPercent.2.toNat

structure BatteryPage where
  latest : Option ChargeSample
  current : Option ChargeLimit
  busy : Bool
  err : Option String
deriving Repr, DecidableEq

namespace BatteryPage

/-- The limit of the latest sample, when there is one that matches a preset. -/
def reported (page : BatteryPage) : Option ChargeLimit :=
  page.latest.bind fun latest => latest.reading.decoded

/-- The effect that runs after every change of the sample, the flag or the selection. -/
def effect (page : BatteryPage) : BatteryPage :=
  if page.busy || page.latest.isNone then page
  else
    match page.reported with
    | some decoded => if some decoded ≠ page.current then { page with current := decoded } else page
    | none => page

/-- `apply` up to its request, behind the guard that ignores a click. -/
def click (page : BatteryPage) (limit : ChargeLimit) : Option BatteryPage :=
  if page.busy || some limit = page.current then none
  else some { page with busy := true, err := none }

def succeeded (page : BatteryPage) (limit : ChargeLimit) : BatteryPage :=
  { page with current := limit, busy := false }

def failed (page : BatteryPage) (e : String) : BatteryPage :=
  { page with err := e, busy := false }

theorem click_eq_some {page next : BatteryPage} {limit : ChargeLimit}
    (accepted : page.click limit = some next) :
    page.busy = false ∧ next = { page with busy := true, err := none } := by
  unfold click at accepted
  split at accepted
  · cases accepted
  · rename_i unguarded
    simp only [Bool.or_eq_true, decide_eq_true_eq, not_or, Bool.not_eq_true] at unguarded
    cases accepted
    exact ⟨unguarded.1, rfl⟩

/-- Once the page is idle, the effect shows what the latest sample reports. -/
theorem effect_idle {page : BatteryPage} (idle : page.busy = false) :
    page.effect = { page with current := page.reported.or page.current } := by
  obtain ⟨latest, current, busy, err⟩ := page
  cases latest with
  | none => simp [effect, reported]
  | some latest =>
      cases idle
      cases decoded : latest.reading.decoded with
      | none => simp [effect, reported, decoded]
      | some limit =>
          by_cases same : some limit = current
          · subst current
            simp [effect, reported, decoded]
          · simp [effect, reported, decoded, same]

theorem effect_busy {page : BatteryPage} (busy : page.busy = true) : page.effect = page := by
  simp [effect, busy]

theorem effect_latest (page : BatteryPage) : page.effect.latest = page.latest := by
  cases idle : page.busy with
  | true => rw [effect_busy idle]
  | false => rw [effect_idle idle]

theorem effect_busy_eq (page : BatteryPage) : page.effect.busy = page.busy := by
  cases idle : page.busy with
  | true => rw [effect_busy idle, idle]
  | false => rw [effect_idle idle, idle]

theorem effect_unseen {page : BatteryPage} (unseen : page.latest = none) : page.effect = page := by
  simp [effect, unseen]

end BatteryPage

/-- A request under way, and whether the daemon has put its limit in force. -/
structure Applying where
  limit : ChargeLimit
  served : Bool
deriving Repr, DecidableEq

/-- An apply that has succeeded. -/
structure Applied where
  limit : ChargeLimit
  time : Nat
deriving Repr, DecidableEq

/-- The page, and what is around it.  The clock tells takings of samples and completions of
applies apart. -/
structure BatteryWorld where
  page : BatteryPage
  request : Option Applying
  inForce : ChargeLimits
  taken : List ChargeSample
  applied : Option Applied
  clock : Nat
deriving Repr, DecidableEq

/-- Someone else changes the limits, the poller takes a sample, a sample taken before is
pushed, a preset is clicked, the daemon serves the request, and the reply arrives. -/
inductive BatteryStep where
  | change (bounds : ChargeLimits)
  | take
  | push (i : Nat)
  | click (limit : ChargeLimit)
  | serve
  | succeed
  | fail (e : String)
deriving Repr, DecidableEq

def batteryMachine : Machine BatteryWorld BatteryStep
  | world, .change bounds => some { world with inForce := bounds }
  | world, .take => some { world with
      taken := world.taken ++ [⟨world.clock, world.inForce⟩], clock := world.clock + 1 }
  | world, .push i => do
      let s ← world.taken[i]?
      return { world with page := ({ world.page with latest := some s }).effect }
  | world, .click limit =>
      match world.page.click limit with
      | some page => some { world with page := page.effect, request := some ⟨limit, false⟩ }
      | none => some world
  | world, .serve => do
      let request ← world.request
      return { world with
        inForce := .of request.limit, request := some { request with served := true } }
  | world, .succeed => do
      let request ← world.request
      if request.served then
        return { world with
          page := (world.page.succeeded request.limit).effect
          request := none
          applied := some ⟨request.limit, world.clock⟩
          clock := world.clock + 1 }
      else
        none
  | world, .fail e => do
      let _ ← world.request
      return { world with page := (world.page.failed e).effect, request := none }

/-- The page as it is mounted, with what the store has. -/
def mounted (latest : Option ChargeSample) (inForce : ChargeLimits) : BatteryWorld where
  page := BatteryPage.effect { latest, current := none, busy := false, err := none }
  request := none
  inForce := inForce
  taken := latest.toList
  applied := none
  clock := latest.elim 0 fun s => s.timestampMs + 1

/-- The page shows the last choice when it was applied after the latest sample was taken, and
else the preset of the latest sample. -/
def BatteryPage.ShowsNewest (page : BatteryPage) (applied : Option Applied) : Prop :=
  (∀ last ∈ applied, (∀ s ∈ page.latest, s.timestampMs < last.time) →
    page.current = some last.limit) ∧
  ∀ s ∈ page.latest, (∀ last ∈ applied, last.time ≤ s.timestampMs) →
    ∀ limit, s.reading.decoded = some limit → page.current = some limit

/-- Whenever no apply is in flight. -/
def BatteryWorld.ShowsNewest (world : BatteryWorld) : Prop :=
  world.request = none → world.page.ShowsNewest world.applied

/-- A sample from before the last applied choice reports that choice, or it matches no preset
and that choice is shown. -/
def BatteryPage.Harmless (page : BatteryPage) (applied : Option Applied) (s : ChargeSample) :
    Prop :=
  ∀ last ∈ applied, s.timestampMs < last.time →
    s.reading.decoded = some last.limit ∨
      s.reading.decoded = none ∧ page.current = some last.limit

/-- No sample from before a choice speaks against it: not the latest one when the choice is
applied, and none that an idle page looks at later. -/
def Unopposed (world : BatteryWorld) : BatteryStep → Prop
  | .push i => world.request = none → ∀ s ∈ world.taken[i]?, world.page.Harmless world.applied s
  | .succeed => ∀ request ∈ world.request, ∀ limit ∈ world.page.reported, limit = request.limit
  | .fail _ => ∀ s ∈ world.page.latest, world.page.Harmless world.applied s
  | _ => True

/-- What every run keeps: times are in the past, and a choice made before the first sample
stands. -/
structure BatteryInvariant (world : BatteryWorld) : Prop where
  busy : world.page.busy = world.request.isSome
  past : ∀ s ∈ world.taken, s.timestampMs < world.clock
  latest : ∀ s ∈ world.page.latest, s ∈ world.taken
  unseen : world.page.latest = none → ∀ last ∈ world.applied,
    world.page.current = some last.limit

variable {world next : BatteryWorld} {step : BatteryStep} {page : BatteryPage}
  {applied : Option Applied}

/-- An idle page shows the newest exactly when its latest sample is harmless. -/
theorem showsNewest_effect_iff (idle : page.busy = false)
    (unseen : page.latest = none → ∀ last ∈ applied, page.current = some last.limit) :
    page.effect.ShowsNewest applied ↔ ∀ s ∈ page.latest, page.Harmless applied s := by
  rw [BatteryPage.effect_idle idle]
  cases sample : page.latest with
  | none =>
      simpa [BatteryPage.ShowsNewest, BatteryPage.reported, sample] using unseen sample
  | some s =>
      cases decoded : s.reading.decoded with
      | none =>
          simp [BatteryPage.ShowsNewest, BatteryPage.Harmless, BatteryPage.reported, sample, decoded]
      | some limit =>
          simp [BatteryPage.ShowsNewest, BatteryPage.Harmless, BatteryPage.reported, sample, decoded]

/-- A choice just applied is newer than the latest sample. -/
theorem showsNewest_succeeded_iff {limit : ChargeLimit} {time : Nat}
    (past : ∀ s ∈ page.latest, s.timestampMs < time) :
    (page.succeeded limit).effect.ShowsNewest (some ⟨limit, time⟩) ↔
      ∀ reported ∈ page.reported, reported = limit := by
  rw [showsNewest_effect_iff rfl (by simp [BatteryPage.succeeded])]
  cases sample : page.latest with
  | none => simp [BatteryPage.succeeded, BatteryPage.reported, sample]
  | some s =>
      have older := past s sample
      cases decoded : s.reading.decoded <;>
        simp [BatteryPage.succeeded, BatteryPage.Harmless, BatteryPage.reported, sample, decoded,
          older]

inductive BatteryMoves (world : BatteryWorld) : BatteryStep → BatteryWorld → Prop where
  | change (bounds : ChargeLimits) :
      BatteryMoves world (.change bounds) { world with inForce := bounds }
  | take : BatteryMoves world .take { world with
      taken := world.taken ++ [⟨world.clock, world.inForce⟩], clock := world.clock + 1 }
  | push {i : Nat} {s : ChargeSample} (found : world.taken[i]? = some s) :
      BatteryMoves world (.push i)
        { world with page := ({ world.page with latest := some s }).effect }
  | click {limit : ChargeLimit} {page : BatteryPage}
      (accepted : world.page.click limit = some page) :
      BatteryMoves world (.click limit)
        { world with page := page.effect, request := some ⟨limit, false⟩ }
  | ignored {limit : ChargeLimit} (refused : world.page.click limit = none) :
      BatteryMoves world (.click limit) world
  | serve {request : Applying} (requested : world.request = some request) :
      BatteryMoves world .serve { world with
        inForce := .of request.limit, request := some { request with served := true } }
  | succeed {request : Applying} (requested : world.request = some request) :
      BatteryMoves world .succeed { world with
        page := (world.page.succeeded request.limit).effect
        request := none
        applied := some ⟨request.limit, world.clock⟩
        clock := world.clock + 1 }
  | fail {request : Applying} (e : String) (requested : world.request = some request) :
      BatteryMoves world (.fail e)
        { world with page := (world.page.failed e).effect, request := none }

theorem batteryMoves (stepped : batteryMachine world step = some next) :
    BatteryMoves world step next := by
  cases step with
  | change bounds =>
      cases stepped
      exact .change bounds
  | take =>
      cases stepped
      exact .take
  | push i =>
      obtain ⟨s, found, same⟩ := Option.bind_eq_some_iff.mp stepped
      cases same
      exact .push found
  | click limit =>
      cases clicked : world.page.click limit with
      | none =>
          simp only [batteryMachine, clicked, Option.some.injEq] at stepped
          exact stepped ▸ .ignored clicked
      | some page =>
          simp only [batteryMachine, clicked, Option.some.injEq] at stepped
          exact stepped ▸ .click clicked
  | serve =>
      obtain ⟨request, requested, same⟩ := Option.bind_eq_some_iff.mp stepped
      cases same
      exact .serve requested
  | succeed =>
      obtain ⟨request, requested, same⟩ := Option.bind_eq_some_iff.mp stepped
      cases served : request.served with
      | false => simp [served] at same
      | true =>
          simp only [served, if_true] at same
          cases same
          exact .succeed requested
  | fail e =>
      obtain ⟨request, requested, same⟩ := Option.bind_eq_some_iff.mp stepped
      cases same
      exact .fail e requested

theorem BatteryInvariant.moves (invariant : BatteryInvariant world)
    (moved : BatteryMoves world step next) : BatteryInvariant next := by
  obtain ⟨busy, past, latest, unseen⟩ := invariant
  cases moved with
  | change bounds => exact ⟨busy, past, latest, unseen⟩
  | take =>
      refine ⟨busy, ?_, fun s seen => List.mem_append_left _ (latest s seen), unseen⟩
      intro s mem
      obtain old | new := List.mem_append.mp mem
      · exact Nat.lt_succ_of_lt (past s old)
      · rw [List.mem_singleton.mp new]
        exact Nat.lt_succ_self _
  | @push i s found =>
      refine ⟨(BatteryPage.effect_busy_eq _).trans busy, past, ?_, ?_⟩
      · intro seen isLatest
        rw [BatteryPage.effect_latest] at isLatest
        cases isLatest
        exact List.mem_of_getElem? found
      · intro none
        rw [BatteryPage.effect_latest] at none
        cases none
  | @click limit page accepted =>
      obtain ⟨_, rfl⟩ := BatteryPage.click_eq_some accepted
      rw [BatteryPage.effect_busy rfl]
      exact ⟨rfl, past, latest, unseen⟩
  | ignored refused => exact ⟨busy, past, latest, unseen⟩
  | serve requested => exact ⟨by rw [busy, requested]; rfl, past, latest, unseen⟩
  | @succeed request requested =>
      refine ⟨BatteryPage.effect_busy_eq _, fun s mem => Nat.lt_succ_of_lt (past s mem), ?_, ?_⟩
      · rw [BatteryPage.effect_latest]
        exact latest
      · intro none last isLast
        rw [BatteryPage.effect_latest] at none
        cases isLast
        rw [BatteryPage.effect_unseen none]
        rfl
  | fail e requested =>
      refine ⟨BatteryPage.effect_busy_eq _, past, ?_, ?_⟩
      · rw [BatteryPage.effect_latest]
        exact latest
      · intro none last isLast
        rw [BatteryPage.effect_latest] at none
        rw [BatteryPage.effect_unseen none]
        exact unseen none last isLast

theorem showsNewest_step_iff (invariant : BatteryInvariant world) (shows : world.ShowsNewest)
    (moved : BatteryMoves world step next) : next.ShowsNewest ↔ Unopposed world step := by
  cases moved with
  | change bounds => exact iff_of_true shows trivial
  | take => exact iff_of_true shows trivial
  | @push i s found =>
      simp only [BatteryWorld.ShowsNewest, Unopposed, found, Option.mem_some_iff, forall_eq']
      refine forall_congr' fun none => ?_
      have idle : BatteryPage.busy { world.page with latest := some s } = false := by
        change world.page.busy = false
        rw [invariant.busy, none]
        rfl
      refine (showsNewest_effect_iff idle fun impossible => by cases impossible).trans ?_
      simp only [Option.mem_some_iff, forall_eq']
      rfl
  | @click limit page accepted => exact iff_of_true (fun impossible => by cases impossible) trivial
  | ignored refused => exact iff_of_true shows trivial
  | serve requested => exact iff_of_true (fun impossible => by cases impossible) trivial
  | @succeed request requested =>
      simp only [BatteryWorld.ShowsNewest, Unopposed, requested, Option.mem_some_iff, forall_eq',
        forall_const]
      exact showsNewest_succeeded_iff fun s isLatest =>
        invariant.past s (invariant.latest s isLatest)
  | @fail request e requested =>
      simp only [BatteryWorld.ShowsNewest, Unopposed, forall_const]
      have idle : (world.page.failed e).busy = false := rfl
      exact showsNewest_effect_iff idle invariant.unseen

theorem batteryInvariant_mounted (latest : Option ChargeSample) (inForce : ChargeLimits) :
    BatteryInvariant (mounted latest inForce) ∧ (mounted latest inForce).ShowsNewest := by
  constructor
  · refine ⟨BatteryPage.effect_busy_eq _, ?_, ?_, fun _ _ impossible => by cases impossible⟩
    · intro s isLatest
      cases Option.mem_toList.mp isLatest
      exact Nat.lt_succ_self _
    · intro s isLatest
      rw [mounted, BatteryPage.effect_latest] at isLatest
      exact Option.mem_toList.mpr isLatest
  · intro _
    refine (showsNewest_effect_iff rfl fun _ _ impossible => by cases impossible).mpr ?_
    intro s _ last impossible
    cases impossible

/-- In every state a run reaches an idle page shows the newest choice, exactly when no sample
from before a choice opposes it. -/
theorem batteryPage_showsNewest_iff {latest : Option ChargeSample} {inForce : ChargeLimits}
    {steps : List BatteryStep} {final : BatteryWorld}
    (ran : Run batteryMachine (mounted latest inForce) steps final) :
    Guarded batteryMachine (Leads batteryMachine BatteryWorld.ShowsNewest)
        (mounted latest inForce) steps final ↔
      Guarded batteryMachine Unopposed (mounted latest inForce) steps final := by
  refine guarded_leads_iff (fun world => BatteryInvariant world ∧ world.ShowsNewest) ran ?_ ?_
    (batteryInvariant_mounted latest inForce)
  · intro world step next ⟨invariant, shows⟩ stepped
    exact showsNewest_step_iff invariant shows (batteryMoves stepped)
  · intro world step next ⟨invariant, shows⟩ unopposed stepped
    have moved := batteryMoves stepped
    exact ⟨invariant.moves moved, (showsNewest_step_iff invariant shows moved).mpr unopposed⟩

/-- The poll comes while the request is under way, so that the reply finds its choice reported. -/
theorem batteryPage_showsNewest_iff_polled :
    ∃ final, Guarded batteryMachine (Leads batteryMachine BatteryWorld.ShowsNewest)
        (mounted (some ⟨1000, ⟨0, 0⟩⟩) ⟨0, 0⟩)
        [.click .balanced, .serve, .take, .push 1, .succeed, .take, .push 2] final ∧
      final.page.current = some .balanced ∧ final.applied = some ⟨.balanced, 1002⟩ := by
  refine ⟨_, (batteryPage_showsNewest_iff (run_of_replay rfl)).mpr ?_, rfl, rfl⟩
  refine .cons trivial rfl (.cons trivial rfl (.cons trivial rfl (.cons ?_ rfl
    (.cons ?_ rfl (.cons trivial rfl (.cons ?_ rfl .nil))))))
  · intro impossible
    cases impossible
  · intro request requested limit reported
    cases requested
    cases reported
    rfl
  · intro _ s found last isLast older
    cases found
    cases isLast
    exact absurd older (by decide)

/-- The reply comes before the next poll: the page returns to the limit of the sample it had. -/
theorem batteryPage_reverts :
    ∃ final, Run batteryMachine (mounted (some ⟨1000, ⟨0, 0⟩⟩) ⟨0, 0⟩)
        [.click .balanced, .serve, .succeed] final ∧
      final.request = none ∧ final.inForce = ⟨70, 80⟩ ∧
      final.applied = some ⟨.balanced, 1001⟩ ∧ final.page.current = some .fullCapacity ∧
      ¬ final.ShowsNewest := by
  refine ⟨_, run_of_replay rfl, rfl, rfl, rfl, rfl, ?_⟩
  intro shows
  have chosen := (shows rfl).1 ⟨.balanced, 1001⟩ rfl fun s isLatest => by
    cases isLatest
    decide
  exact absurd chosen (by decide)

end Lecoo.Gui
