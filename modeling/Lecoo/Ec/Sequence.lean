import Lecoo.Ec.Prescription
import Mathlib.Data.List.Induction

namespace Lecoo.Ec

open Lecoo.Effects Lecoo.Ipc Lecoo.Daemon Lecoo.Data

/-! # Sequences of setters

A setter leaves the other features alone when no register shares an address
with a register of its own feature; what one setter established is then still
there after any setters of other features.
-/

variable {codec : SettingsCodec} {thread : ThreadId} {ec : EcDevice} {world before after : World}

/-- No register shares an address with one of the feature's. -/
def EcDevice.Sole (ec : EcDevice) (feature : Feature) : Prop :=
  ∀ register, register.feature = some feature →
    ∀ other, ec.address other = ec.address register → other = register

theorem EcDevice.Separated.sole (separated : ec.Separated) (feature : Feature) :
    ec.Sole feature :=
  fun _ _ _ same => separated same

namespace Setter

variable {setter : Setter}

theorem take_writes (setter : Setter) (world : World) (made : Nat) :
    registerWrites ((setter.actions ec world).take made) ⊆
      registerWrites (setter.actions ec world) :=
  ((List.take_sublist _ _).filterMap _).subset

theorem take_feature (setter : Setter) (world : World) (made : Nat) :
    ∀ entry ∈ registerWrites ((setter.actions ec world).take made),
      entry.1.feature = some setter.feature :=
  fun entry member => setter.steps_feature _ _ entry (setter.take_writes world made member)

/-- However far a setter got, a register whose address it does not write is as before. -/
theorem play_apart (world : World) {register : Register}
    (apart : ∀ written, written.feature = some setter.feature →
      ec.address written ≠ ec.address register) (made : Nat) :
    (world.play ec ((setter.actions ec world).take made)).registers ec register =
      world.registers ec register := by
  rw [World.registers, play_ec]
  apply Memory.writeAll_frame
  intro placed member
  obtain ⟨entry, written, rfl⟩ := List.mem_map.mp member
  exact apart entry.1 (setter.take_feature world made entry written)

theorem play_frame (sole : ec.Sole setter.feature) (world : World) {register : Register}
    (foreign : register.feature ≠ some setter.feature) (made : Nat) :
    (world.play ec ((setter.actions ec world).take made)).registers ec register =
      world.registers ec register := by
  refine play_apart world ?_ made
  intro written own shared
  have same : register = written := sole written own register shared.symm
  exact foreign (same ▸ own)

theorem play_foreign (sole : ec.Sole setter.feature) (world : World) {register : Register}
    (foreign : register.feature ≠ some setter.feature) :
    (world.play ec (setter.actions ec world)).registers ec register =
      world.registers ec register := by
  have kept := play_frame sole world foreign (setter.actions ec world).length
  rwa [List.take_length] at kept

/-- The registers of a feature that shares none keep their values under the
setters of other features, even of those that do share some. -/
theorem play_spares {feature : Feature} (sole : ec.Sole feature) (other : setter.feature ≠ feature)
    (world : World) {register : Register} (own : register.feature = some feature) (made : Nat) :
    (world.play ec ((setter.actions ec world).take made)).registers ec register =
      world.registers ec register := by
  refine play_apart world ?_ made
  intro written foreign shared
  have same : written = register := sole register own written shared
  rw [same, own] at foreign
  exact other (Option.some.inj foreign).symm

theorem play_own (sole : ec.Sole setter.feature) {register : Register}
    (own : register.feature = some setter.feature) :
    (world.play ec (setter.actions ec world)).registers ec register =
      (world.registers ec).writeAll (registerWrites (setter.actions ec world)) register :=
  play_registers fun entry _ shared => sole register own entry.1 shared

theorem play_prescribed_iff (sole : ec.Sole setter.feature) :
    ((world.play ec (setter.actions ec world)).registers ec).Holds setter.prescribes ↔
      (setter.ReliesOnFlag → world.LedCoherent ec) := by
  have written : ((world.registers ec).writeAll (registerWrites (setter.actions ec world))).Holds
      setter.prescribes ↔ (setter.ReliesOnFlag → world.LedCoherent ec) :=
    setter.steps_prescribed_iff _ _ _
  refine Iff.trans (forall_congr' fun entry => imp_congr_right fun member => ?_) written
  rw [play_own sole (setter.prescribes_feature entry member)]

/-- A setter that is applied again leaves what it prescribes, however far it gets. -/
theorem play_again (sole : ec.Sole setter.feature) (notRing : setter.feature ≠ .ledRing)
    (held : (world.registers ec).Holds setter.prescribes) (made : Nat) :
    ((world.play ec ((setter.actions ec world).take made)).registers ec).Holds
      setter.prescribes := by
  intro entry member
  have own := setter.prescribes_feature entry member
  rw [play_registers fun written _ shared => sole entry.1 own written.1 shared]
  rcases Memory.writeAll_old_or_written (world.registers ec)
    (registerWrites ((setter.actions ec world).take made)) entry.1 with kept | written
  · rw [kept]
    exact held entry member
  · exact steps_once notRing _ _ _ (setter.take_writes world made written) entry member rfl

theorem play_coherent (sole : ec.Sole setter.feature) (coherent : world.LedCoherent ec) :
    (world.play ec (setter.actions ec world)).LedCoherent ec := by
  intro flag
  by_cases ring : setter.feature = .ledRing
  · cases setter with
    | ledMode mode =>
        rw [play_ledCustom] at flag
        rw [play_own sole rfl, play_own sole rfl]
        exact ledSteps_coherent mode coherent flag
    | _ => cases ring
  · have bypass : Register.ledBypass.feature ≠ some setter.feature :=
      fun same => ring (Option.some.inj same).symm
    have mux : Register.gpioA0Mux.feature ≠ some setter.feature := bypass
    rw [play_ledCustom, actions, steps_flag ring] at flag
    rw [play_foreign sole world bypass, play_foreign sole world mux]
    exact coherent flag

/-- The setters succeed one after another. -/
def Succeed (codec : SettingsCodec) (thread : ThreadId) (ec : EcDevice) :
    List Setter → World → World → Prop
  | [], before, after => after = before
  | setter :: rest, before, after => ∃ middle,
      Alone codec thread (setter.apply ec) before (.ok ()) middle ∧
        Succeed codec thread ec rest middle after

/-- The last setter of a feature in a sequence. -/
def lastOf (feature : Feature) (setters : List Setter) : Option Setter :=
  setters.reverse.find? fun setter => setter.feature = feature

theorem succeed_append {first second : List Setter} :
    Succeed codec thread ec (first ++ second) before after ↔
      ∃ middle, Succeed codec thread ec first before middle ∧
        Succeed codec thread ec second middle after := by
  induction first generalizing before with
  | nil => simp [Succeed]
  | cons setter first ih =>
      simp only [List.cons_append, Succeed, ih]
      constructor
      · rintro ⟨next, ran, middle, head, tail⟩
        exact ⟨middle, ⟨next, ran, head⟩, tail⟩
      · rintro ⟨middle, ⟨next, ran, head⟩, tail⟩
        exact ⟨next, ran, middle, head, tail⟩

theorem alone_apply_succeeded
    (ran : Alone codec thread (setter.apply ec) before (.ok ()) after) :
    setter.Valid ∧ after = before.play ec (setter.actions ec before) := by
  rcases alone_apply ran with ⟨_, valid, played⟩ | ⟨_, _, _, impossible, _⟩
  · exact ⟨valid, played⟩
  · cases impossible

theorem alone_apply_played {result : Except Failure Unit}
    (ran : Alone codec thread (setter.apply ec) before result after) :
    ∃ made, after = before.play ec ((setter.actions ec before).take made) := by
  rcases alone_apply ran with ⟨_, _, rfl⟩ | ⟨made, _, _, _, rfl⟩
  · exact ⟨(setter.actions ec before).length, by rw [List.take_length]⟩
  · exact ⟨made, rfl⟩

/-- What a feature that shares no register has been set to stays there under
the setters of other features, and under the one that set it. -/
theorem alone_apply_holds {kept : Setter} {result : Except Failure Unit}
    (sole : ec.Sole kept.feature) (notRing : kept.feature ≠ .ledRing)
    (spares : setter = kept ∨ setter.feature ≠ kept.feature)
    (held : (before.registers ec).Holds kept.prescribes)
    (ran : Alone codec thread (setter.apply ec) before result after) :
    (after.registers ec).Holds kept.prescribes := by
  obtain ⟨made, rfl⟩ := alone_apply_played ran
  rcases spares with rfl | other
  · exact play_again sole notRing held made
  · intro entry member
    rw [play_spares sole other before (kept.prescribes_feature entry member)]
    exact held entry member

theorem exists_succeed (codec : SettingsCodec) (thread : ThreadId) (ec : EcDevice)
    {setters : List Setter} (valid : ∀ setter ∈ setters, setter.Valid) (before : World) :
    ∃ after, Succeed codec thread ec setters before after := by
  induction setters generalizing before with
  | nil => exact ⟨before, rfl⟩
  | cons setter rest ih =>
      obtain ⟨after, tail⟩ := ih (fun next member => valid next (List.mem_cons_of_mem _ member))
        (before.play ec (setter.actions ec before))
      exact ⟨after, _, alone_apply_ok (valid setter List.mem_cons_self), tail⟩

theorem lastOf_append_single (feature : Feature) (setters : List Setter) (setter : Setter) :
    lastOf feature (setters ++ [setter]) =
      if setter.feature = feature then some setter else lastOf feature setters := by
  simp only [lastOf, List.reverse_append, List.reverse_singleton, List.singleton_append,
    List.find?_cons]
  by_cases same : setter.feature = feature <;> simp [same]

theorem lastOf_feature {feature : Feature} {setters : List Setter}
    (last : lastOf feature setters = some setter) : setter.feature = feature := by
  simpa using List.find?_some last

/-- What the last setter of each feature prescribes is there at the end, and the
flag is still coherent. -/
theorem succeed_prescribed {setters : List Setter}
    (sole : ∀ setter ∈ setters, ec.Sole setter.feature) (coherent : before.LedCoherent ec)
    (ran : Succeed codec thread ec setters before after) :
    after.LedCoherent ec ∧ ∀ feature setter, lastOf feature setters = some setter →
      (after.registers ec).Holds setter.prescribes := by
  induction setters using List.reverseRecOn generalizing after with
  | nil =>
      cases ran
      exact ⟨coherent, fun feature setter last => by cases last⟩
  | append_singleton setters setter ih =>
      obtain ⟨middle, earlier, _, last, rfl⟩ := succeed_append.mp ran
      obtain ⟨_, rfl⟩ := alone_apply_succeeded last
      obtain ⟨middleCoherent, held⟩ := ih (fun next member => sole next (by simp [member])) earlier
      have own := sole setter (by simp)
      refine ⟨play_coherent own middleCoherent, fun feature chosen found => ?_⟩
      rw [lastOf_append_single] at found
      split at found
      · cases found
        exact (play_prescribed_iff own).mpr fun _ => middleCoherent
      · rename_i different
        intro entry member
        have kept := held feature chosen found entry member
        have foreign : entry.1.feature ≠ some setter.feature := by
          rw [chosen.prescribes_feature entry member, lastOf_feature found]
          exact fun same => different (Option.some.inj same).symm
        rw [play_foreign own middle foreign, kept]

theorem succeed_foreign {setters : List Setter} {register : Register}
    (sole : ∀ setter ∈ setters, ec.Sole setter.feature)
    (foreign : ∀ setter ∈ setters, register.feature ≠ some setter.feature)
    (ran : Succeed codec thread ec setters before after) :
    after.registers ec register = before.registers ec register := by
  induction setters generalizing before with
  | nil => cases ran; rfl
  | cons setter rest ih =>
      obtain ⟨middle, first, tail⟩ := ran
      obtain ⟨_, rfl⟩ := alone_apply_succeeded first
      rw [ih (fun next member => sole next (List.mem_cons_of_mem _ member))
          (fun next member => foreign next (List.mem_cons_of_mem _ member)) tail,
        play_foreign (sole setter List.mem_cons_self) before (foreign setter List.mem_cons_self)]

theorem succeed_keeps {setters : List Setter} {kept : Setter}
    (others : ∀ setter ∈ setters, setter.feature ≠ kept.feature) (sole : ec.Sole kept.feature)
    (notRing : kept.feature ≠ .ledRing) (held : (before.registers ec).Holds kept.prescribes)
    (ran : Succeed codec thread ec setters before after) :
    (after.registers ec).Holds kept.prescribes := by
  induction setters generalizing before with
  | nil => cases ran; exact held
  | cons setter rest ih =>
      obtain ⟨middle, first, tail⟩ := ran
      have other := others setter List.mem_cons_self
      exact ih (fun next member => others next (List.mem_cons_of_mem _ member))
        (alone_apply_holds sole notRing (.inr other) held first) tail

theorem succeed_flag {setters : List Setter}
    (other : ∀ setter ∈ setters, setter.feature ≠ .ledRing)
    (ran : Succeed codec thread ec setters before after) : after.ledCustom = before.ledCustom := by
  induction setters generalizing before with
  | nil => cases ran; rfl
  | cons setter rest ih =>
      obtain ⟨middle, first, tail⟩ := ran
      obtain ⟨_, rfl⟩ := alone_apply_succeeded first
      rw [ih (fun next member => other next (List.mem_cons_of_mem _ member)) tail,
        play_ledCustom, actions, steps_flag (other setter List.mem_cons_self)]

theorem succeed_ledCoherent {setters : List Setter}
    (sole : ∀ setter ∈ setters, ec.Sole setter.feature)
    (other : ∀ setter ∈ setters, setter.feature ≠ .ledRing)
    (ran : Succeed codec thread ec setters before after) :
    after.LedCoherent ec ↔ before.LedCoherent ec := by
  have foreign : ∀ setter ∈ setters, some Feature.ledRing ≠ some setter.feature :=
    fun setter member same => other setter member (Option.some.inj same).symm
  exact play_ledCoherent_congr (succeed_flag other ran)
    (succeed_foreign sole foreign ran) (succeed_foreign sole foreign ran)

/-- Setters of different features establish everything they prescribe, unless
one of them relied on a flag that was not coherent at the start. -/
theorem succeed_prescribed_iff {setters : List Setter}
    (sole : ∀ setter ∈ setters, ec.Sole setter.feature)
    (distinct : (setters.map feature).Nodup)
    (ran : Succeed codec thread ec setters before after) :
    (∀ setter ∈ setters, (after.registers ec).Holds setter.prescribes) ↔
      ∀ setter ∈ setters, setter.ReliesOnFlag → before.LedCoherent ec := by
  refine forall_congr' fun setter => forall_congr' fun member => ?_
  obtain ⟨first, rest, rfl⟩ := List.append_of_mem member
  obtain ⟨middle, earlier, next, applied, later⟩ := succeed_append.mp ran
  obtain ⟨_, rfl⟩ := alone_apply_succeeded applied
  have own := sole setter member
  simp only [List.map_append, List.map_cons, List.nodup_append, List.nodup_cons] at distinct
  have kept : (after.registers ec).Holds setter.prescribes ↔
      ((middle.play ec (setter.actions ec middle)).registers ec).Holds setter.prescribes := by
    refine forall_congr' fun entry => imp_congr_right fun prescribed => ?_
    rw [succeed_foreign (fun next member => sole next (by simp [member])) ?_ later]
    intro next member same
    rw [setter.prescribes_feature entry prescribed] at same
    exact distinct.2.1.1 (Option.some.inj same ▸ List.mem_map_of_mem member)
  rw [kept, play_prescribed_iff own]
  refine imp_congr_right fun relies => ?_
  have ring : setter.feature = .ledRing := by
    cases setter with
    | ledMode mode => rfl
    | _ => cases relies
  refine succeed_ledCoherent (fun next member => sole next (by simp [member])) ?_ earlier
  intro next member same
  exact distinct.2.2 _ (List.mem_map_of_mem member) _ List.mem_cons_self (same.trans ring.symm)

/-- A setter that does not rely on the flag has set its registers when setters of
different features have succeeded, also when some of those share registers. -/
theorem succeed_holds {setters : List Setter} (distinct : (setters.map feature).Nodup)
    (member : setter ∈ setters) (sole : ec.Sole setter.feature)
    (notRing : setter.feature ≠ .ledRing)
    (ran : Succeed codec thread ec setters before after) :
    (after.registers ec).Holds setter.prescribes := by
  induction setters generalizing before with
  | nil => cases member
  | cons first rest ih =>
      obtain ⟨middle, applied, tail⟩ := ran
      obtain ⟨fresh, distinct⟩ := List.nodup_cons.mp distinct
      rcases List.mem_cons.mp member with rfl | later
      · obtain ⟨_, rfl⟩ := alone_apply_succeeded applied
        have relies : ¬setter.ReliesOnFlag := by
          intro relies
          cases setter with
          | ledMode mode => exact notRing rfl
          | _ => cases relies
        have set : ((before.play ec (setter.actions ec before)).registers ec).Holds
            setter.prescribes := (play_prescribed_iff sole).mpr fun flag => absurd flag relies
        exact succeed_keeps (fun next member same => fresh (same ▸ List.mem_map_of_mem member))
          sole notRing set tail
      · exact ih distinct later tail

def applyAll (ec : EcDevice) : List Setter → Io Unit
  | [] => pure ()
  | setter :: rest => do
      setter.apply ec
      applyAll ec rest

/-- The actions of the setters, each started where the one before it ended. -/
def actionsAll (ec : EcDevice) : List Setter → World → List Action
  | [], _ => []
  | setter :: rest, world => setter.actions ec world ++
      actionsAll ec rest (world.play ec (setter.actions ec world))

theorem alone_applyAll_ok {setters : List Setter} :
    Alone codec thread (applyAll ec setters) before (.ok ()) after ↔
      Succeed codec thread ec setters before after := by
  induction setters generalizing before with
  | nil => simp [applyAll, Succeed]
  | cons setter rest ih =>
      simp only [applyAll, Alone, Fallible.runs_bind_ok, Succeed]
      constructor
      · rintro ⟨_, middle, first, tail⟩
        exact ⟨middle, first, ih.mp tail⟩
      · rintro ⟨middle, first, tail⟩
        exact ⟨(), middle, first, ih.mpr tail⟩

/-- A sequence of setters plays all of its actions, or fails after a proper prefix. -/
theorem alone_applyAll {setters : List Setter} {result : Except Failure Unit}
    (ran : Alone codec thread (applyAll ec setters) before result after) :
    (result = .ok () ∧ after = before.play ec (actionsAll ec setters before)) ∨
    (∃ made < (actionsAll ec setters before).length, ∃ message,
      result = .error (.error message) ∧
      after = before.play ec ((actionsAll ec setters before).take made)) := by
  induction setters generalizing before with
  | nil =>
      obtain ⟨rfl, rfl⟩ := ran
      exact .inl ⟨rfl, rfl⟩
  | cons setter rest ih =>
      have length : (actionsAll ec (setter :: rest) before).length =
          (setter.actions ec before).length +
            (actionsAll ec rest (before.play ec (setter.actions ec before))).length :=
        List.length_append
      rcases Fallible.runs_bind.mp ran with ⟨failure, rfl, first⟩ | ⟨_, middle, first, tail⟩
      · rcases alone_apply first with ⟨impossible, _⟩ | ⟨made, bound, message, same, rfl⟩
        · cases impossible
        · cases same
          refine .inr ⟨made, by omega, message, rfl, ?_⟩
          rw [actionsAll, List.take_append_of_le_length (Nat.le_of_lt bound)]
      · rcases alone_apply first with ⟨_, _, rfl⟩ | ⟨_, _, _, impossible, _⟩
        · rcases ih tail with ⟨rfl, rfl⟩ | ⟨made, bound, message, rfl, rfl⟩
          · exact .inl ⟨rfl, by rw [actionsAll, World.play_append]⟩
          · refine .inr ⟨(setter.actions ec before).length + made, by omega, message, rfl, ?_⟩
            rw [actionsAll, List.take_length_add_append, World.play_append]
        · cases impossible

end Setter

end Lecoo.Ec
