import Lecoo.Ec.Sequence

namespace Lecoo.Ec

open Lecoo.Effects Lecoo.Ipc Lecoo.Daemon Lecoo.Data

/-! # Leaving the manual modes

A manual mode takes pins, the LED bypass and the keyboard timer away from the
controller.  Only the bypass cell is given back when the mode is left: the
others keep what the last manual mode put there, so that they tell whether one
was ever entered.
-/

variable {codec : SettingsCodec} {thread : ThreadId} {ec : EcDevice}
  {world before after plain : World} {setter : Setter} {setters : List Setter}
  {register : Register} {feature : Feature} {value : UInt8}

/-- The registers that take a feature away from the controller. -/
def Register.overrides : List Register := [.ledBypass, .gpioA0Mux, .gpioA4Mux, .kbdBypassTimeout]

/-- The byte a manual mode puts in an override that no other mode writes. -/
def Register.manualByte : Register → Option UInt8
  | .gpioA0Mux => some 0x00
  | .gpioA4Mux => some 0x00
  | .kbdBypassTimeout => some 0xFF
  | _ => none

namespace Setter

/-- The custom and animation modes of the LED ring, the custom level of the keyboard. -/
def isManual : Setter → Bool
  | .ledMode .auto => false
  | .ledMode _ => true
  | .keyboardBacklight (.custom _) => true
  | _ => false

/-- Some setter of the sequence puts the feature in a manual mode. -/
def Enters (feature : Feature) (setters : List Setter) : Prop :=
  ∃ setter ∈ setters, setter.isManual = true ∧ setter.feature = feature

instance (feature : Feature) (setters : List Setter) : Decidable (Enters feature setters) :=
  inferInstanceAs (Decidable (∃ setter ∈ setters, _))

/-- No feature is in a manual mode after the sequence. -/
def Left (setters : List Setter) : Prop :=
  ∀ setter ∈ setters, lastOf setter.feature setters = some setter → setter.isManual = false

instance (setters : List Setter) : Decidable (Left setters) :=
  inferInstanceAs (Decidable (∀ setter ∈ setters, _ → _))

/-- The sequence without the setters that enter a manual mode. -/
def controlled (setters : List Setter) : List Setter :=
  setters.filter fun setter => !setter.isManual

theorem steps_manualByte (setter : Setter) {ledCustom : Bool} (portA : UInt8)
    {memory : Memory Register UInt8} (coherent : ledCustom = true → memory .gpioA0Mux = 0x00)
    (left : register.manualByte = some value) (own : register.feature = some feature) :
    memory.writeAll (registerWrites (actionsOf (setter.steps ec ledCustom portA))) register =
      if setter.isManual = true ∧ setter.feature = feature then value else memory register := by
  by_cases same : setter.feature = feature
  · subst same
    cases setter with
    | ledMode mode =>
        cases register <;> cases left <;> cases own
        cases mode <;> cases ledCustom <;>
          simp [steps, ledSteps, ledSetUp, ledReset, writeActions, isManual, feature, coherent]
    | keyboardBacklight level =>
        cases register <;> cases left <;> cases own <;> cases level <;>
          simp [steps, keyboardSteps, writeActions, isManual, feature]
    | _ => cases register <;> cases left <;> cases own
  · rw [if_neg fun entered => same entered.2]
    apply Memory.writeAll_frame
    intro entry member shared
    have foreign := setter.steps_feature ledCustom portA entry member
    rw [shared, own] at foreign
    exact same (Option.some.inj foreign).symm

theorem play_manualByte (sole : ec.Sole feature) (coherent : world.LedCoherent ec)
    (left : register.manualByte = some value) (own : register.feature = some feature) :
    (world.play ec (setter.actions ec world)).registers ec register =
      if setter.isManual = true ∧ setter.feature = feature then value
      else world.registers ec register := by
  rw [play_registers fun entry _ shared => sole register own entry.1 shared]
  exact setter.steps_manualByte _ (fun flag => (coherent flag).2) left own

/-- The overrides that are not given back tell whether a manual mode was entered. -/
theorem succeed_manualByte (separated : ec.Separated) (coherent : before.LedCoherent ec)
    (left : register.manualByte = some value) (own : register.feature = some feature)
    (ran : Succeed codec thread ec setters before after) :
    after.registers ec register =
      if Enters feature setters then value else before.registers ec register := by
  induction setters generalizing before with
  | nil =>
      cases ran
      rfl
  | cons setter rest ih =>
      obtain ⟨middle, first, tail⟩ := ran
      obtain ⟨_, rfl⟩ := alone_apply_succeeded first
      rw [ih (play_coherent (separated.sole _) coherent) tail,
        play_manualByte (separated.sole feature) coherent left own]
      by_cases later : Enters feature rest
      · have entered : Enters feature (setter :: rest) := by
          obtain ⟨found, member, manual⟩ := later
          exact ⟨found, List.mem_cons_of_mem _ member, manual⟩
        rw [if_pos later, if_pos entered]
      · have now : Enters feature (setter :: rest) ↔
            setter.isManual = true ∧ setter.feature = feature := by
          simp only [Enters, List.mem_cons, exists_eq_or_imp]
          exact or_iff_left later
        simp only [if_neg later, now]

theorem not_enters_controlled : ¬Enters feature (controlled setters) := by
  intro entered
  obtain ⟨setter, member, manual, _⟩ := entered
  have spared := (List.mem_filter.mp member).2
  simp [manual] at spared

theorem lastOf_filter {keep : Setter → Bool}
    (kept : ∀ setter, lastOf feature setters = some setter → keep setter = true) :
    lastOf feature (setters.filter keep) = lastOf feature setters := by
  induction setters using List.reverseRecOn with
  | nil => rfl
  | append_singleton setters setter ih =>
      rw [List.filter_append, lastOf_append_single]
      simp only [lastOf_append_single] at kept
      by_cases same : setter.feature = feature
      · have keeps := kept setter (if_pos same)
        simp only [List.filter_cons, keeps, List.filter_nil, if_true, lastOf_append_single, same]
      · simp only [if_neg same] at kept ⊢
        cases keeps : keep setter with
        | true => simp [keeps, lastOf_append_single, same, ih kept]
        | false => simp [keeps, ih kept]

theorem lastOf_mem (last : lastOf feature setters = some setter) : setter ∈ setters :=
  List.mem_reverse.mp (List.mem_of_find?_eq_some last)

theorem Left.last (left : Left setters) (last : lastOf feature setters = some setter) :
    setter.isManual = false := by
  have own := lastOf_feature last
  subst own
  exact left setter (lastOf_mem last) last

theorem Left.lastOf_controlled (left : Left setters) (feature : Feature) :
    lastOf feature (controlled setters) = lastOf feature setters :=
  lastOf_filter fun _ last => by rw [left.last last, Bool.not_false]

/-- A ring that is left in its automatic mode, or was never set, is not bypassed. -/
theorem succeed_bypass (separated : ec.Separated) (coherent : before.LedCoherent ec)
    (automatic : ∀ setter, lastOf .ledRing setters = some setter → setter.isManual = false)
    (ran : Succeed codec thread ec setters before after) :
    after.registers ec .ledBypass =
      if lastOf .ledRing setters = none then before.registers ec .ledBypass else 0x00 := by
  cases last : lastOf .ledRing setters with
  | none =>
      rw [if_pos rfl]
      refine succeed_foreign (fun _ _ => separated.sole _) (fun setter member ring => ?_) ran
      have absent := List.find?_eq_none.mp last setter (List.mem_reverse.mpr member)
      exact absent (decide_eq_true (Option.some.inj ring).symm)
  | some setter =>
      rw [if_neg (Option.some_ne_none setter)]
      have held := (succeed_prescribed (fun _ _ => separated.sole _) coherent ran).2 _ _ last
      have ring := lastOf_feature last
      have auto := automatic setter last
      cases setter with
      | ledMode mode =>
          cases mode with
          | auto => exact held (.ledBypass, 0x00) List.mem_cons_self
          | _ => cases auto
      | _ => cases ring

/-- An override that is not given back is as if no manual mode had been entered
exactly when none was, or it held the manual byte from the start. -/
theorem manualByte_undone_iff (register : Register) (separated : ec.Separated)
    (coherent : before.LedCoherent ec) (left : register.manualByte = some value)
    (own : register.feature = some feature)
    (ran : Succeed codec thread ec setters before after)
    (spared : Succeed codec thread ec (controlled setters) before plain) :
    after.registers ec register = plain.registers ec register ↔
      (Enters feature setters → before.registers ec register = value) := by
  rw [succeed_manualByte separated coherent left own ran,
    succeed_manualByte separated coherent left own spared, if_neg not_enters_controlled]
  by_cases entered : Enters feature setters
  · simp only [entered, if_true, forall_const]
    exact eq_comm
  · simp [entered]

/-- On the N155A profile leaving the manual modes undoes them exactly when the pins
and the timer they took held the manual bytes from the start. -/
theorem leaving_undoes_iff (detection : Detection) (board : detection.profile = .n155a)
    (coherent : before.LedCoherent detection.device) (left : Left setters)
    (ran : Succeed codec thread detection.device setters before after)
    (spared : Succeed codec thread detection.device (controlled setters) before plain) :
    (∀ register ∈ Register.overrides, after.registers detection.device register =
        plain.registers detection.device register) ↔
      (Enters .ledRing setters → before.registers detection.device .gpioA0Mux = 0x00) ∧
      (Enters .keyboard setters → before.registers detection.device .gpioA4Mux = 0x00 ∧
        before.registers detection.device .kbdBypassTimeout = 0xFF) := by
  have separated := detection.n155a_separated board
  have bypass : after.registers detection.device .ledBypass =
      plain.registers detection.device .ledBypass := by
    rw [succeed_bypass separated coherent (fun _ last => left.last last) ran,
      succeed_bypass separated coherent _ spared, left.lastOf_controlled]
    intro setter last
    exact left.last ((left.lastOf_controlled _).symm.trans last)
  have pinA0 := manualByte_undone_iff .gpioA0Mux separated coherent rfl rfl ran spared
  have pinA4 := manualByte_undone_iff .gpioA4Mux separated coherent rfl rfl ran spared
  have timer := manualByte_undone_iff .kbdBypassTimeout separated coherent rfl rfl ran spared
  simp only [Register.overrides, List.forall_mem_cons, List.not_mem_nil, false_imp_iff,
    implies_true, and_true, bypass, true_and, pinA0, pinA4, timer, imp_and]

/-- The keyboard was in a custom level; its pin and its timer were already manual. -/
theorem leaving_undoes_again :
    ∃ after plain : World,
      Succeed .bincode 0 Detection.n155a.device
        [.keyboardBacklight (.custom 200), .keyboardBacklight .low, .ledMode .auto]
        (World.fresh (fun addr => if addr = 0x1614 then 0x00 else 0xFF) none) after ∧
      Succeed .bincode 0 Detection.n155a.device [.keyboardBacklight .low, .ledMode .auto]
        (World.fresh (fun addr => if addr = 0x1614 then 0x00 else 0xFF) none) plain ∧
      ∀ register ∈ Register.overrides, after.registers Detection.n155a.device register =
        plain.registers Detection.n155a.device register := by
  let setters : List Setter :=
    [.keyboardBacklight (.custom 200), .keyboardBacklight .low, .ledMode .auto]
  let before := World.fresh (fun addr => if addr = 0x1614 then 0x00 else 0xFF) none
  have valid : ∀ setter ∈ setters, setter.Valid := by decide
  have validPlain : ∀ setter ∈ controlled setters, setter.Valid := by decide
  obtain ⟨after, ran⟩ := exists_succeed .bincode 0 Detection.n155a.device valid before
  obtain ⟨plain, spared⟩ := exists_succeed .bincode 0 Detection.n155a.device validPlain before
  exact ⟨after, plain, ran, spared, (leaving_undoes_iff Detection.n155a rfl (by decide)
    (by decide) ran spared).mpr ⟨by decide, fun _ => by decide⟩⟩

/-- The keyboard goes to a custom level and back to `Low`: the timer that returns
it to the controller stays disabled. -/
theorem leaving_not_undone :
    ¬∀ (detection : Detection) (setters : List Setter) (before after plain : World),
      detection.profile = .n155a → before.ledCustom = false →
      (∀ setter ∈ setters, setter.feature = .ledRing ∨ setter.feature = .keyboard) →
      lastOf .ledRing setters = some (.ledMode .auto) →
      (∃ level ∈ [.off, .low, .medium, .high],
        lastOf .keyboard setters = some (.keyboardBacklight level)) →
      Succeed .bincode 0 detection.device setters before after →
      Succeed .bincode 0 detection.device (controlled setters) before plain →
      ∀ register ∈ Register.overrides, after.registers detection.device register =
        plain.registers detection.device register := by
  intro claim
  let setters : List Setter :=
    [.keyboardBacklight (.custom 200), .keyboardBacklight .low, .ledMode .auto]
  let before := World.fresh (fun _ => 0x04) none
  have separated := Detection.n155a.n155a_separated rfl
  have coherent : before.LedCoherent Detection.n155a.device := by decide
  have valid : ∀ setter ∈ setters, setter.Valid := by decide
  have validPlain : ∀ setter ∈ controlled setters, setter.Valid := by decide
  obtain ⟨after, ran⟩ := exists_succeed .bincode 0 Detection.n155a.device valid before
  obtain ⟨plain, spared⟩ := exists_succeed .bincode 0 Detection.n155a.device validPlain before
  have undone := claim Detection.n155a setters before after plain rfl rfl (by decide) (by decide)
    (by decide) ran spared .kbdBypassTimeout (by decide)
  have held := (manualByte_undone_iff _ separated coherent rfl rfl ran spared).mp undone (by decide)
  exact absurd held (by decide)

end Setter

end Lecoo.Ec
