import Mathlib.Algebra.Ring.Nat
import Mathlib.Data.List.Infix

namespace Lecoo.Data

/-! # Self-delimiting encodings

A coder reads its value from the front of the input and hands back the rest.
It carries its two laws: what was written is read back whatever follows, and
input behind a value that was read does not change the reading.  That a strict
prefix of an encoding is rejected follows from these.
-/

structure PrefixCoder (α : Type) where
  encode : α → List UInt8
  decode : List UInt8 → Option (α × List UInt8)
  decode_encode : ∀ value rest, decode (encode value ++ rest) = some (value, rest)
  decode_append : ∀ {bytes value rest} more,
    decode bytes = some (value, rest) → decode (bytes ++ more) = some (value, rest ++ more)

namespace PrefixCoder

variable {α β : Type}

theorem decode_encode_nil (coder : PrefixCoder α) (value : α) :
    coder.decode (coder.encode value) = some (value, []) := by
  simpa only [List.append_nil] using coder.decode_encode value []

/-- Input that breaks off inside an encoding is rejected. -/
theorem decode_strictPrefix (coder : PrefixCoder α) {value : α} {bytes : List UInt8}
    (brokenOff : bytes <+: coder.encode value) (incomplete : bytes ≠ coder.encode value) :
    coder.decode bytes = none := by
  obtain ⟨missing, whole⟩ := brokenOff
  cases read : coder.decode bytes with
  | none => rfl
  | some result =>
      obtain ⟨other, rest⟩ := result
      have extended := coder.decode_append missing read
      rw [whole, coder.decode_encode_nil] at extended
      have ended : rest ++ missing = [] := (congrArg Prod.snd (Option.some.inj extended)).symm
      rw [(List.append_eq_nil_iff.mp ended).2, List.append_nil] at whole
      exact absurd whole incomplete

def unit : PrefixCoder Unit where
  encode _ := []
  decode bytes := some ((), bytes)
  decode_encode _ _ := rfl
  decode_append := by
    intro bytes value rest more read
    cases read
    rfl

def byte : PrefixCoder UInt8 where
  encode value := [value]
  decode
    | [] => none
    | value :: rest => some (value, rest)
  decode_encode _ _ := rfl
  decode_append := by
    intro bytes value rest more read
    cases bytes with
    | nil => cases read
    | cons first tail =>
        cases read
        rfl

/-- Bytes whose count is known. -/
def block (count : Nat) : PrefixCoder { bytes : List UInt8 // bytes.length = count } where
  encode bytes := bytes.val
  decode bytes :=
    if enough : count ≤ bytes.length then
      some (⟨bytes.take count, by rw [List.length_take]; omega⟩, bytes.drop count)
    else none
  decode_encode := by
    intro ⟨bytes, length⟩ rest
    subst length
    simp
  decode_append := by
    intro bytes value rest more read
    split at read
    · rename_i enough
      cases read
      rw [dif_pos (by rw [List.length_append]; omega)]
      simp [List.take_append_of_le_length enough, List.drop_append_of_le_length enough]
    · cases read

/-- A value followed by one whose layout it decides. -/
def sigma {γ : α → Type} (first : PrefixCoder α) (second : (value : α) → PrefixCoder (γ value)) :
    PrefixCoder ((value : α) × γ value) where
  encode pair := first.encode pair.1 ++ (second pair.1).encode pair.2
  decode bytes := do
    let (value, rest) ← first.decode bytes
    let (payload, rest) ← (second value).decode rest
    return (⟨value, payload⟩, rest)
  decode_encode := by
    intro pair rest
    simp only [List.append_assoc, first.decode_encode, (second pair.1).decode_encode,
      Option.bind_eq_bind, Option.bind_some, Option.pure_def]
  decode_append := by
    intro bytes value rest more read
    simp only [Option.bind_eq_bind, Option.bind_eq_some_iff, Option.pure_def, Option.some.injEq,
      Prod.mk.injEq, Prod.exists] at read ⊢
    obtain ⟨tag, middle, readTag, payload, behind, readPayload, rfl, rfl⟩ := read
    exact ⟨tag, middle ++ more, first.decode_append more readTag, payload, behind ++ more,
      (second tag).decode_append more readPayload, rfl, rfl⟩

/-- The same layout for another type, of which every value can be written. -/
def retract (coder : PrefixCoder α) (read : α → Option β) (written : β → α)
    (inverse : ∀ value, read (written value) = some value) : PrefixCoder β where
  encode value := coder.encode (written value)
  decode bytes := do
    let (value, rest) ← coder.decode bytes
    return (← read value, rest)
  decode_encode := by
    intro value rest
    simp only [coder.decode_encode, inverse, Option.bind_eq_bind, Option.bind_some,
      Option.pure_def]
  decode_append := by
    intro bytes value rest more readBytes
    simp only [Option.bind_eq_bind, Option.bind_eq_some_iff, Option.pure_def, Option.some.injEq,
      Prod.mk.injEq, Prod.exists] at readBytes ⊢
    obtain ⟨raw, behind, readRaw, result, accepted, rfl, rfl⟩ := readBytes
    exact ⟨raw, behind ++ more, coder.decode_append more readRaw, result, accepted, rfl, rfl⟩

def imap (coder : PrefixCoder α) (read : α → β) (written : β → α)
    (inverse : ∀ value, read (written value) = value) : PrefixCoder β :=
  coder.retract (fun value => some (read value)) written fun value => by rw [inverse]

def pair (first : PrefixCoder α) (second : PrefixCoder β) : PrefixCoder (α × β) :=
  (first.sigma fun _ => second).imap (fun both => (both.1, both.2)) (fun both => ⟨both.1, both.2⟩)
    fun _ => rfl

/-- A number below `count` in one byte. -/
def index (count : Nat) (small : count ≤ 256) : PrefixCoder (Fin count) :=
  byte.retract
    (fun value => if bound : value.toNat < count then some ⟨value.toNat, bound⟩ else none)
    (fun value => UInt8.ofNat value.val)
    fun value => by
      have same : (UInt8.ofNat value.val).toNat = value.val :=
        UInt8.toNat_ofNat_of_lt (Nat.lt_of_lt_of_le value.isLt small)
      simp only [same, value.isLt, dif_pos]

/-- A number in the given count of bytes, the least significant first. -/
def littleEndian : (count : Nat) → PrefixCoder (Fin (256 ^ count))
  | 0 => unit.imap (fun _ => ⟨0, Nat.one_pos⟩) (fun _ => ()) fun value => by
      have bound : value.val < 1 := value.isLt
      exact Fin.ext (by omega)
  | count + 1 => (byte.pair (littleEndian count)).imap
      (fun both => ⟨both.1.toNat + 256 * both.2.val, by
        have low := both.1.toNat_lt
        have high := both.2.isLt
        rw [Nat.pow_succ]
        omega⟩)
      (fun value => (UInt8.ofNat (value.val % 256), ⟨value.val / 256, by
        have bound : value.val < 256 * 256 ^ count := by
          rw [Nat.mul_comm, ← Nat.pow_succ]
          exact value.isLt
        exact Nat.div_lt_of_lt_mul bound⟩))
      fun value => by
        have same : (UInt8.ofNat (value.val % 256)).toNat = value.val % 256 :=
          UInt8.toNat_ofNat_of_lt (Nat.mod_lt _ (by decide))
        apply Fin.ext
        simp only [same]
        exact Nat.mod_add_div value.val 256

/-- No value takes more bytes than this. -/
def Within (coder : PrefixCoder α) (count : Nat) : Prop :=
  ∀ value, (coder.encode value).length ≤ count

theorem Within.mono {coder : PrefixCoder α} {count more : Nat} (within : coder.Within count)
    (enough : count ≤ more) : coder.Within more :=
  fun value => Nat.le_trans (within value) enough

theorem within_unit {count : Nat} : unit.Within count := fun _ => Nat.zero_le count

theorem within_byte : byte.Within 1 := fun _ => Nat.le_refl 1

theorem Within.retract {coder : PrefixCoder α} {read : α → Option β} {written : β → α}
    {inverse : ∀ value, read (written value) = some value} {count : Nat}
    (within : coder.Within count) : (coder.retract read written inverse).Within count :=
  fun value => within (written value)

theorem Within.imap {coder : PrefixCoder α} {read : α → β} {written : β → α}
    {inverse : ∀ value, read (written value) = value} {count : Nat}
    (within : coder.Within count) : (coder.imap read written inverse).Within count :=
  within.retract

theorem Within.sigma {γ : α → Type} {first : PrefixCoder α}
    {second : (value : α) → PrefixCoder (γ value)} {count more : Nat} (tag : first.Within count)
    (payload : ∀ value, (second value).Within more) : (first.sigma second).Within (more + count) := by
  intro value
  change (first.encode value.1 ++ (second value.1).encode value.2).length ≤ more + count
  rw [List.length_append, Nat.add_comm]
  exact Nat.add_le_add (payload value.1 value.2) (tag value.1)

theorem Within.pair {first : PrefixCoder α} {second : PrefixCoder β} {count more : Nat}
    (left : first.Within count) (right : second.Within more) :
    (first.pair second).Within (more + count) := by
  unfold PrefixCoder.pair
  exact (left.sigma fun _ => right).imap

theorem within_index {count : Nat} {small : count ≤ 256} : (index count small).Within 1 := by
  unfold index
  exact within_byte.retract

theorem within_littleEndian (count : Nat) : (littleEndian count).Within count := by
  induction count with
  | zero => exact fun _ => Nat.le_refl 0
  | succ count ih =>
      exact fun value => within_byte.pair ih _

end PrefixCoder

end Lecoo.Data
