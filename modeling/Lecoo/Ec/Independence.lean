import Lecoo.Ec.Sequence

namespace Lecoo.Ec

open Lecoo.Effects Lecoo.Ipc Lecoo.Daemon Lecoo.Data

/-! # Independence of the features on the shipped boards -/

variable {codec : SettingsCodec} {thread : ThreadId} {ec : EcDevice} {world before after : World}

theorem Detection.sole_iff (detection : Detection) (feature : Feature) :
    detection.device.Sole feature ↔
      detection.profile = .n155a ∨ (feature ≠ .ledRing ∧ feature ≠ .fan .cpu) := by
  cases board : detection.profile with
  | n155a => exact iff_of_true ((detection.n155a_separated board).sole feature) (.inl rfl)
  | n155d =>
      simp only [reduceCtorEq, false_or]
      constructor
      · intro sole
        have shares := detection.n155d_shares_cell board
        constructor
        · rintro rfl
          cases sole .ledBypass rfl (.thermalPolicy .cpu) shares.symm
        · rintro rfl
          cases sole (.thermalPolicy .cpu) rfl .ledBypass shares
      · rintro ⟨notRing, notCpu⟩ register own other same
        rcases detection.n155d_address_inj board same with equal | ⟨-, rfl⟩ | ⟨-, rfl⟩
        · exact equal
        · exact absurd (Option.some.inj own).symm notCpu
        · exact absurd (Option.some.inj own).symm notRing

namespace Setter

variable {setter : Setter} {detection : Detection}

/-- The values a setter can leave in the cell the two features share. -/
theorem play_shared (world : World) (board : detection.profile = .n155d)
    (shares : setter.feature = .ledRing ∨ setter.feature = .fan .cpu)
    (unset : world.ledCustom = false) :
    (world.play detection.device (setter.actions detection.device world)).registers
        detection.device .ledBypass ∈ [0x00, 0x01, 0x40] := by
  have read : ∀ register, register.feature = some setter.feature →
      (world.play detection.device (setter.actions detection.device world)).registers
        detection.device register =
      (world.registers detection.device).writeAll
        (registerWrites (setter.actions detection.device world)) register := by
    intro register own
    apply play_registers
    intro entry member same
    have written := setter.steps_feature _ _ entry member
    rcases detection.n155d_address_inj board same with equal | ⟨left, right⟩ | ⟨left, right⟩
    · exact equal
    · rw [left] at written
      rw [right, ← written] at own
      cases own
    · rw [left] at written
      rw [right, ← written] at own
      cases own
  cases setter with
  | ledMode mode =>
      rw [read .ledBypass rfl]
      cases mode <;>
        simp [actions, steps, unset, ledSteps, ledSetUp, ledReset, writeActions]
  | fanMode fan mode =>
      cases fan with
      | cpu =>
          have moved : ∀ world : World, world.registers detection.device .ledBypass =
              world.registers detection.device (.thermalPolicy .cpu) := fun world =>
            congrArg world.ec (detection.n155d_shares_cell board)
          rw [moved, read (.thermalPolicy .cpu) rfl]
          cases mode <;>
            simp [actions, steps, fanSteps, fanRequest, writeActions]
      | gpu => rcases shares with impossible | impossible <;> cases impossible
  | _ => rcases shares with impossible | impossible <;> cases impossible

/-- In every run from a coherent flag on (a process starts with the flag unset),
no setter changes a register of another feature, and in the end every feature
holds what its last setter prescribes. -/
def Independent (codec : SettingsCodec) (thread : ThreadId) (ec : EcDevice)
    (setters : List Setter) : Prop :=
  ∀ before after, before.LedCoherent ec → Succeed codec thread ec setters before after →
    (∀ first setter rest middle next, setters = first ++ setter :: rest →
      Succeed codec thread ec first before middle →
      Alone codec thread (setter.apply ec) middle (.ok ()) next →
      Succeed codec thread ec rest next after →
      ∀ register feature, register.feature = some feature → feature ≠ setter.feature →
        next.registers ec register = middle.registers ec register) ∧
    ∀ feature setter, lastOf feature setters = some setter →
      (after.registers ec).Holds setter.prescribes

theorem independent_of_sole {setters : List Setter}
    (sole : ∀ setter ∈ setters, ec.Sole setter.feature) :
    Independent codec thread ec setters := by
  intro before after coherent ran
  refine ⟨?_, (succeed_prescribed sole coherent ran).2⟩
  rintro first setter rest middle next rfl _ applied _ register feature own other
  obtain ⟨_, rfl⟩ := alone_apply_succeeded applied
  apply play_foreign (sole setter (by simp))
  rw [own]
  exact fun same => other (Option.some.inj same)

/-- On the N155D profile an LED or CPU fan setter disturbs the other feature. -/
theorem not_independent_of_shared {setters : List Setter} (board : detection.profile = .n155d)
    (valid : ∀ setter ∈ setters, setter.Valid)
    (shares : ∃ setter ∈ setters, setter.feature = .ledRing ∨ setter.feature = .fan .cpu) :
    ¬ Independent codec thread detection.device setters := by
  intro independent
  -- the first such setter finds the shared cell and the flag as they were at the start
  obtain ⟨setter, found⟩ : ∃ setter, setters.find? (fun setter =>
      setter.feature = .ledRing ∨ setter.feature = .fan .cpu) = some setter := by
    apply Option.isSome_iff_exists.mp
    simpa using shares
  obtain ⟨sharing, first, rest, rfl, others⟩ := List.find?_eq_some_iff_append.mp found
  simp only [decide_eq_true_eq, Bool.not_eq_true', decide_eq_false_iff_not, not_or] at sharing others
  have sole : ∀ setter ∈ first, detection.device.Sole setter.feature := fun setter member =>
    (detection.sole_iff _).mpr (.inr (others setter member))
  let before := World.fresh (fun _ => 0x77) none
  have validFirst : ∀ setter ∈ first, setter.Valid :=
    fun setter member => valid setter (List.mem_append_left _ member)
  have validRest : ∀ setter ∈ rest, setter.Valid :=
    fun setter member => valid setter (by simp [member])
  obtain ⟨middle, earlier⟩ := exists_succeed codec thread detection.device validFirst before
  obtain ⟨after, later⟩ := exists_succeed codec thread detection.device validRest
    (middle.play detection.device (setter.actions detection.device middle))
  have applied : Alone codec thread (setter.apply detection.device) middle (.ok ()) _ :=
    alone_apply_ok (valid setter (by simp))
  have whole : Succeed codec thread detection.device (first ++ setter :: rest) before after :=
    succeed_append.mpr ⟨middle, earlier, _, applied, later⟩
  have kept := (independent before after (fun flag => by cases flag) whole).1
    first setter rest middle _ rfl earlier applied later
  have unset : middle.ledCustom = false :=
    succeed_flag (fun setter member => (others setter member).1) earlier
  have foreign : ∀ setter ∈ first, Register.ledBypass.feature ≠ some setter.feature :=
    fun setter member same => (others setter member).1 (Option.some.inj same).symm
  have cell : middle.registers detection.device .ledBypass = 0x77 :=
    succeed_foreign sole foreign earlier
  have left := play_shared middle board sharing unset
  have moved : ∀ world : World, world.registers detection.device .ledBypass =
      world.registers detection.device (.thermalPolicy .cpu) := fun world =>
    congrArg world.ec (detection.n155d_shares_cell board)
  rcases sharing with ring | cpu
  · rw [moved, kept (.thermalPolicy .cpu) (.fan .cpu) rfl (by rw [ring]; decide), ← moved, cell] at left
    exact absurd left (by decide)
  · rw [kept .ledBypass .ledRing rfl (by rw [cpu]; decide), cell] at left
    exact absurd left (by decide)

/-- Valid setters are independent of each other exactly when the LED bypass and
the policy of the CPU fan are different cells, or none of them concerns either. -/
theorem independent_iff (detection : Detection) {setters : List Setter}
    (valid : ∀ setter ∈ setters, setter.Valid) :
    Independent codec thread detection.device setters ↔ detection.profile = .n155a ∨
      ∀ setter ∈ setters, setter.feature ≠ .ledRing ∧ setter.feature ≠ .fan .cpu := by
  constructor
  · intro independent
    cases board : detection.profile with
    | n155a => exact .inl rfl
    | n155d =>
        refine .inr fun setter member => not_or.mp fun shares => ?_
        exact not_independent_of_shared board valid ⟨setter, member, shares⟩ independent
  · intro apart
    refine independent_of_sole fun setter member => (detection.sole_iff _).mpr ?_
    exact apart.imp_right fun others => others setter member

theorem independent_iff_n155a :
    (∀ setter ∈ [ledMode (.custom 128), fanMode .cpu .full], setter.Valid) ∧
    Independent .bincode 0 Detection.n155a.device
      [.ledMode (.custom 128), .fanMode .cpu .full] :=
  ⟨by decide, (independent_iff _ (by decide)).mpr (.inl rfl)⟩

/-- The LED ring is set to a fixed brightness, then the CPU fan to full speed:
the policy byte `0x40` replaces the bypass byte `0x01`. -/
theorem n155d_fan_overwrites_bypass :
    ¬ Independent .bincode 0 Detection.n155d.device
      [.ledMode (.custom 128), .fanMode .cpu .full] := by
  intro independent
  let ec := Detection.n155d.device
  let start := World.fresh (fun _ => 0) none
  let middle := start.play ec (actions ec (.ledMode (.custom 128)) start)
  have led : Alone .bincode 0 (apply ec (.ledMode (.custom 128))) start (.ok ()) middle :=
    alone_apply_ok (by decide)
  have fan : Alone .bincode 0 (apply ec (.fanMode .cpu .full)) middle (.ok ())
      (middle.play ec (actions ec (.fanMode .cpu .full) middle)) := alone_apply_ok (by decide)
  have held := (independent start _ (fun flag => by cases flag) ⟨middle, led, _, fan, rfl⟩).2
    .ledRing (.ledMode (.custom 128)) rfl (.ledBypass, 0x01) (by decide)
  exact absurd held (by decide)

end Setter

end Lecoo.Ec
