import Lecoo.Ec.Independence

namespace Lecoo.Daemon

open Lecoo.Effects Lecoo.Ipc Lecoo.Ec Lecoo.Data

/-! # Restoring the settings -/

variable {codec : SettingsCodec} {thread : ThreadId} {ec : EcDevice} {before after : World}

/-- The setters `restore_state` calls, in its order. -/
def settingSetters (settings : CurrentSettings) : List Setter :=
  [.keyboardBacklight settings.keyboardBacklight, .ledMode settings.ledMode,
    .powerProfile settings.powerProfile, .chargeLimit settings.chargeLimit,
    .fanMode .cpu settings.fanModeCpu, .fanMode .gpu settings.fanModeGpu]

theorem restoreState_eq (settings : CurrentSettings) :
    restoreState ec settings = Setter.applyAll ec (settingSetters settings) := by
  simp only [restoreState, settingSetters, Setter.applyAll, Setter.apply, bind_assoc, pure_bind,
    bind_pure_unit]

theorem settingSetters_distinct (settings : CurrentSettings) :
    ((settingSetters settings).map Setter.feature).Nodup := by
  simp [settingSetters, Setter.feature]

theorem settingSetters_reliesOnFlag (settings : CurrentSettings) :
    (∃ setter ∈ settingSetters settings, setter.ReliesOnFlag) ↔ settings.ledMode ≠ .auto := by
  cases mode : settings.ledMode <;> simp [settingSetters, Setter.ReliesOnFlag, mode]

def Restored (ec : EcDevice) (settings : CurrentSettings) (world : World) : Prop :=
  ∀ setter ∈ settingSetters settings, (world.registers ec).Holds setter.prescribes

instance (settings : CurrentSettings) (world : World) : Decidable (Restored ec settings world) :=
  inferInstanceAs (Decidable (∀ setter ∈ settingSetters settings, _))

/-- A successful restore re-establishes the settings exactly when the LED ring
is left to the EC or the flag tells the truth about the bypass and the pin. -/
theorem restored_iff (detection : Detection) (board : detection.profile = .n155a)
    {settings : CurrentSettings}
    (ran : Alone codec thread (restoreState detection.device settings) before (.ok ()) after) :
    Restored detection.device settings after ↔
      settings.ledMode = .auto ∨ before.LedCoherent detection.device := by
  rw [restoreState_eq] at ran
  have sole : ∀ setter ∈ settingSetters settings, detection.device.Sole setter.feature :=
    fun setter _ => (detection.sole_iff _).mpr (.inl board)
  have held := Setter.succeed_prescribed_iff sole (settingSetters_distinct settings)
    (Setter.alone_applyAll_ok.mp ran)
  rw [Restored, held]
  constructor
  · intro coherent
    by_cases auto : settings.ledMode = .auto
    · exact .inl auto
    · obtain ⟨setter, member, relies⟩ := (settingSetters_reliesOnFlag settings).mpr auto
      exact .inr (coherent setter member relies)
  · rintro (auto | coherent) setter member relies
    · exact absurd auto ((settingSetters_reliesOnFlag settings).mp ⟨setter, member, relies⟩)
    · exact coherent

theorem restored_iff_after_reset :
    Restored Detection.n155a.device (CurrentSettings.default 0)
      (runAlone .bincode 0 (restoreState Detection.n155a.device
        (CurrentSettings.default 0)) [] (World.fresh (fun _ => 0xFF) none)).2 :=
  (restored_iff Detection.n155a rfl
    (runAlone_alone .bincode 0 _ [] (World.fresh (fun _ => 0xFF) none))).mpr (.inl rfl)

/-- The sleep event sets the flag, the EC loses its registers, and the restore
after the wake-up reports success with the ring still under EC control. -/
theorem restored_fails_after_sleep :
    let ec := Detection.n155a.device
    let settings := { CurrentSettings.default 0 with ledMode := .custom 128 }
    let asleep := (runAlone .bincode 0 (processEvent ec .systemSleeping) []
      (World.fresh (fun _ => 0) none)).2
    let awake := runAlone .bincode 0 (restoreState ec settings) [] { asleep with ec := fun _ => 0 }
    awake.1 = .ok () ∧ ¬ Restored ec settings awake.2 := by
  refine ⟨rfl, ?_⟩
  decide

end Lecoo.Daemon
