import Lecoo.Data.PrefixCoder

namespace Lecoo.Data

/-! # Readers with an allowance

A reader takes what it is about to read off an allowance of bytes, and fails
when there is not enough left.  What was written is read back, whatever follows
it, exactly when the allowance covers what the reader claims for it.
-/

structure Metered (α : Type) where
  encode : α → List UInt8
  /-- What the reader claims for a value. -/
  claims : α → Nat
  /-- The value, the rest of the input and of the allowance. -/
  read : Nat → List UInt8 → Option (α × List UInt8 × Nat)
  read_encode : ∀ value rest allowance, (encode value).length < 2 ^ 64 →
    read allowance (encode value ++ rest) =
      if claims value ≤ allowance then some (value, rest, allowance - claims value) else none

namespace Metered

variable {α β : Type}

/-- The same is claimed for every value, before it is read. -/
def fixed (coder : PrefixCoder α) (charge : Nat) : Metered α where
  encode := coder.encode
  claims _ := charge
  read allowance bytes :=
    if charge ≤ allowance then
      (coder.decode bytes).map fun (value, rest) => (value, rest, allowance - charge)
    else none
  read_encode value rest allowance _ := by
    rw [coder.decode_encode]
    rfl

/-- A value followed by one whose layout it decides. -/
def sigma {γ : α → Type} (first : Metered α) (second : (value : α) → Metered (γ value)) :
    Metered ((value : α) × γ value) where
  encode pair := first.encode pair.1 ++ (second pair.1).encode pair.2
  claims pair := first.claims pair.1 + (second pair.1).claims pair.2
  read allowance bytes := do
    let (value, rest, left) ← first.read allowance bytes
    let (payload, rest, left) ← (second value).read left rest
    return (⟨value, payload⟩, rest, left)
  read_encode := by
    intro pair rest allowance short
    rw [List.length_append] at short
    rw [List.append_assoc, first.read_encode _ _ _ (by omega)]
    by_cases covered : first.claims pair.1 ≤ allowance
    · rw [if_pos covered]
      simp only [Option.bind_eq_bind, Option.bind_some, Option.pure_def]
      rw [(second pair.1).read_encode _ _ _ (by omega)]
      by_cases enough : (second pair.1).claims pair.2 ≤ allowance - first.claims pair.1
      · rw [if_pos enough, if_pos (by omega), Nat.sub_sub]
        rfl
      · rw [if_neg enough, if_neg (by omega)]
        rfl
    · rw [if_neg covered, if_neg (by omega)]
      rfl

/-- The same layout for another type, of which every value can be written. -/
def retract (metered : Metered α) (accept : α → Option β) (written : β → α)
    (inverse : ∀ value, accept (written value) = some value) : Metered β where
  encode value := metered.encode (written value)
  claims value := metered.claims (written value)
  read allowance bytes := do
    let (value, rest, left) ← metered.read allowance bytes
    return (← accept value, rest, left)
  read_encode := by
    intro value rest allowance short
    rw [metered.read_encode _ _ _ short]
    split
    · simp only [inverse, Option.bind_eq_bind, Option.bind_some, Option.pure_def]
    · rfl

theorem accepts {read : α → β} {written : β → α} (inverse : ∀ value, read (written value) = value)
    (value : β) : (some ∘ read) (written value) = some value :=
  congrArg some (inverse value)

def imap (metered : Metered α) (read : α → β) (written : β → α)
    (inverse : ∀ value, read (written value) = value) : Metered β :=
  metered.retract (some ∘ read) written (accepts inverse)

def pair (first : Metered α) (second : Metered β) : Metered (α × β) :=
  (first.sigma fun _ => second).imap (fun | ⟨value, payload⟩ => (value, payload))
    (fun | (value, payload) => ⟨value, payload⟩) fun _ => rfl

/-- As many bytes as the length before them says, which are claimed before they are read. -/
def block (length : Metered UInt64) : Metered (List UInt8) where
  encode bytes := length.encode (UInt64.ofNat bytes.length) ++ bytes
  claims bytes := length.claims (UInt64.ofNat bytes.length) + bytes.length
  read allowance bytes := do
    let (count, rest, left) ← length.read allowance bytes
    if count.toNat ≤ left then
      if count.toNat ≤ rest.length then
        return (rest.take count.toNat, rest.drop count.toNat, left - count.toNat)
      else none
    else none
  read_encode := by
    intro bytes rest allowance short
    rw [List.length_append] at short
    have counted : (UInt64.ofNat bytes.length).toNat = bytes.length :=
      UInt64.toNat_ofNat_of_lt (by rw [UInt64.size]; omega)
    rw [List.append_assoc, length.read_encode _ _ _ (by omega)]
    by_cases covered : length.claims (UInt64.ofNat bytes.length) ≤ allowance
    · rw [if_pos covered]
      simp only [Option.bind_eq_bind, Option.bind_some, Option.pure_def, counted,
        List.length_append, Nat.le_add_right, if_true, List.take_left', List.drop_left']
      by_cases enough : bytes.length ≤ allowance - length.claims (UInt64.ofNat bytes.length)
      · rw [if_pos enough, if_pos (by omega), Nat.sub_sub]
      · rw [if_neg enough, if_neg (by omega)]
    · rw [if_neg covered, if_neg (by omega)]
      rfl

/-- A block that has to be UTF-8. -/
def text (length : Metered UInt64) : Metered String :=
  (block length).retract (fun bytes => String.fromUTF8? ⟨bytes.toArray⟩)
    (fun text => text.toByteArray.data.toList) fun text => by
      rw [Array.toArray_toList, String.fromUTF8?, dif_pos text.isValidUTF8]
      rfl

/-- There is no value in an empty input. -/
def Consumes (metered : Metered α) : Prop := ∀ allowance, metered.read allowance [] = none

theorem fixed_consumes {coder : PrefixCoder α} (empty : coder.decode [] = none) (charge : Nat) :
    (fixed coder charge).Consumes := by
  intro allowance
  simp [fixed, empty]

theorem text_consumes {length : Metered UInt64} (consumes : length.Consumes) :
    (text length).Consumes := by
  intro allowance
  simp [text, retract, block, consumes allowance]

/-- Input that has the first of two values but not the second is not read. -/
theorem sigma_fails {γ : α → Type} {first : Metered α} {second : (value : α) → Metered (γ value)}
    {value : α} {bytes : List UInt8} (short : (first.encode value).length < 2 ^ 64)
    (fails : ∀ left, (second value).read left bytes = none) (allowance : Nat) :
    (first.sigma second).read allowance (first.encode value ++ bytes) = none := by
  simp only [sigma, first.read_encode _ _ _ short]
  split
  · have failed := fails (allowance - first.claims value)
    simp [failed]
  · rfl

theorem retract_fails {metered : Metered α} {accept : α → Option β} {written : β → α}
    {inverse : ∀ value, accept (written value) = some value} {allowance : Nat} {bytes : List UInt8}
    (fails : metered.read allowance bytes = none) :
    (metered.retract accept written inverse).read allowance bytes = none := by
  simp only [retract, fails]
  rfl

theorem pair_fails {first : Metered α} {second : Metered β} {value : α} {bytes : List UInt8}
    (short : (first.encode value).length < 2 ^ 64) (fails : ∀ left, second.read left bytes = none)
    (allowance : Nat) :
    (first.pair second).read allowance (first.encode value ++ bytes) = none := by
  have both : (first.sigma fun _ => second).read allowance (first.encode value ++ bytes) = none :=
    sigma_fails short fails allowance
  rw [pair, imap]
  exact retract_fails both

/-- A strict prefix of an encoding is not read. -/
def Whole (metered : Metered α) : Prop :=
  ∀ value bytes allowance, (metered.encode value).length < 2 ^ 64 →
    bytes <+: metered.encode value → bytes ≠ metered.encode value →
    metered.read allowance bytes = none

theorem fixed_whole (coder : PrefixCoder α) (charge : Nat) : (fixed coder charge).Whole := by
  intro value bytes allowance _ brokenOff incomplete
  have fails : coder.decode bytes = none := coder.decode_strictPrefix brokenOff incomplete
  simp [fixed, fails]

theorem retract_whole {metered : Metered α} {accept : α → Option β} {written : β → α}
    {inverse : ∀ value, accept (written value) = some value} (whole : metered.Whole) :
    (metered.retract accept written inverse).Whole :=
  fun value bytes allowance short brokenOff incomplete =>
    retract_fails (whole (written value) bytes allowance short brokenOff incomplete)

/-- A prefix of two pieces ends in the first, or has the first and a prefix of the second. -/
theorem prefix_pieces {bytes first second : List UInt8} (brokenOff : bytes <+: first ++ second)
    (incomplete : bytes ≠ first ++ second) :
    (bytes <+: first ∧ bytes ≠ first) ∨
      ∃ tail, bytes = first ++ tail ∧ tail <+: second ∧ tail ≠ second := by
  obtain ⟨missing, whole⟩ := brokenOff
  by_cases ended : bytes <+: first ∧ bytes ≠ first
  · exact .inl ended
  · right
    rcases List.append_eq_append_iff.mp whole with ⟨more, same, _⟩ | ⟨tail, same, rest⟩
    · have equal : bytes = first := by
        by_contra differs
        exact ended ⟨⟨more, same.symm⟩, differs⟩
      refine ⟨[], by rw [List.append_nil, equal], List.nil_prefix, fun empty => ?_⟩
      exact incomplete (by rw [← empty, List.append_nil, equal])
    · refine ⟨tail, same, ⟨missing, rest.symm⟩, fun complete => ?_⟩
      exact incomplete (by rw [same, complete])

theorem sigma_whole {γ : α → Type} {first : Metered α} {second : (value : α) → Metered (γ value)}
    (whole : first.Whole) (later : ∀ value, (second value).Whole) : (first.sigma second).Whole := by
  intro value bytes allowance short brokenOff incomplete
  have lengths : (first.encode value.1).length + ((second value.1).encode value.2).length < 2 ^ 64 := by
    rw [← List.length_append]
    exact short
  rcases prefix_pieces brokenOff incomplete with ⟨inside, differs⟩ | ⟨tail, rfl, inside, differs⟩
  · have fails := whole value.1 bytes allowance (by omega) inside differs
    simp [sigma, fails]
  · exact sigma_fails (by omega)
      (fun left => later value.1 value.2 tail left (by omega) inside differs) allowance

theorem imap_whole {metered : Metered α} {read : α → β} {written : β → α}
    {inverse : ∀ value, read (written value) = value} (whole : metered.Whole) :
    (metered.imap read written inverse).Whole :=
  retract_whole whole

theorem pair_whole {first : Metered α} {second : Metered β} (whole : first.Whole)
    (later : second.Whole) : (first.pair second).Whole := by
  rw [pair]
  exact imap_whole (sigma_whole whole fun _ => later)

theorem block_whole {length : Metered UInt64} (whole : length.Whole) : (block length).Whole := by
  intro value bytes allowance short brokenOff incomplete
  have lengths : (length.encode (UInt64.ofNat value.length)).length + value.length < 2 ^ 64 := by
    rw [← List.length_append]
    exact short
  have counted : (UInt64.ofNat value.length).toNat = value.length :=
    UInt64.toNat_ofNat_of_lt (by rw [UInt64.size]; omega)
  rcases prefix_pieces brokenOff incomplete with ⟨inside, differs⟩ | ⟨tail, rfl, inside, differs⟩
  · have fails := whole _ bytes allowance (by omega) inside differs
    simp [block, fails]
  · have shorter : tail.length < value.length := by
      obtain ⟨missing, rfl⟩ := inside
      cases missing with
      | nil => exact absurd (List.append_nil tail).symm differs
      | cons byte missing =>
          rw [List.length_append, List.length_cons]
          omega
    simp only [block, length.read_encode _ _ _ (Nat.lt_of_le_of_lt (Nat.le_add_right _ _) lengths)]
    split
    · simp only [Option.bind_eq_bind, Option.bind_some, counted, if_neg (Nat.not_le.mpr shorter),
        ite_self]
    · rfl

theorem text_whole {length : Metered UInt64} (whole : length.Whole) : (text length).Whole :=
  retract_whole (block_whole whole)

end Metered

end Lecoo.Data
