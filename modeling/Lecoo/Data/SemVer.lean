import Mathlib.Data.Nat.Basic
import Mathlib.Order.Lattice

namespace Lecoo.Data.SemVer

open Std

/-! # Semantic versions

The grammar of version strings and the precedence between them: numbers as
numbers, a pre-release below its release, build metadata without a say.
-/

def identifierChar (c : Char) : Bool := c.isDigit || c.isAlpha || c == '-'

/-- What may stand between two dots of build metadata. -/
def IsIdentifier (text : List Char) : Prop :=
  text ≠ [] ∧ ∀ c ∈ text, identifierChar c = true

instance (text : List Char) : Decidable (IsIdentifier text) :=
  @instDecidableAnd _ _ inferInstance (List.decidableBAll _ text)

abbrev BuildIdentifier := { text : List Char // IsIdentifier text }

/-- What may stand between two dots of a pre-release. -/
inductive Identifier where
  | numeric (value : Nat)
  | alphanumeric (text : List Char)
      (wellFormed : IsIdentifier text ∧ ∃ c ∈ text, c.isDigit = false)
deriving DecidableEq

structure Version where
  major : Nat
  minor : Nat
  patch : Nat
  preRelease : List Identifier
  build : List BuildIdentifier
deriving DecidableEq

/-- A number without leading zeros. -/
def numeral (value : Nat) : List Char := Nat.toDigits 10 value

def Identifier.text : Identifier → List Char
  | .numeric value => numeral value
  | .alphanumeric text _ => text

def dotted (pieces : List (List Char)) : List Char := ['.'].intercalate pieces

namespace Version

def coreText (version : Version) : List Char :=
  dotted [numeral version.major, numeral version.minor, numeral version.patch]

def preReleaseText (version : Version) : List Char := dotted (version.preRelease.map Identifier.text)

def buildText (version : Version) : List Char := dotted (version.build.map Subtype.val)

def text (version : Version) : List Char :=
  version.coreText ++ (if version.preRelease = [] then [] else '-' :: version.preReleaseText) ++
    (if version.build = [] then [] else '+' :: version.buildText)

end Version

def compareIdentifier : Identifier → Identifier → Ordering
  | .numeric a, .numeric b => compare a b
  | .numeric _, .alphanumeric _ _ => .lt
  | .alphanumeric _ _, .numeric _ => .gt
  | .alphanumeric a _, .alphanumeric b _ => compare (a.map Char.toNat) (b.map Char.toNat)

/-- No pre-release is above any pre-release. -/
def comparePreRelease : List Identifier → List Identifier → Ordering
  | [], [] => .eq
  | [], _ :: _ => .gt
  | _ :: _, [] => .lt
  | a, b => List.compareLex compareIdentifier a b

/-- What comes after is only looked at when what comes first is equal. -/
theorem then_congr {first second third : Ordering} (same : first = .eq → second = third) :
    first.then second = first.then third := by
  cases first with
  | lt => rfl
  | eq => rw [same rfl]
  | gt => rfl

namespace Version

def precedence (a b : Version) : Ordering :=
  (compare a.major b.major).then <| (compare a.minor b.minor).then <|
    (compare a.patch b.patch).then (comparePreRelease a.preRelease b.preRelease)

/-- The two versions are pre-releases of one release. -/
def Siblings (a b : Version) : Prop :=
  a.preRelease ≠ [] ∧ b.preRelease ≠ [] ∧
    a.major = b.major ∧ a.minor = b.minor ∧ a.patch = b.patch

instance (a b : Version) : Decidable (a.Siblings b) := inferInstanceAs (Decidable (_ ∧ _))

/-- Between versions that are not two pre-releases of one release, what they are
pre-releases of is all that counts. -/
theorem precedence_eq {a b : Version} (apart : ¬ a.Siblings b) :
    a.precedence b = (compare a.major b.major).then ((compare a.minor b.minor).then
      ((compare a.patch b.patch).then
        (compare (decide (b.preRelease ≠ [])) (decide (a.preRelease ≠ []))))) := by
  refine then_congr fun major => then_congr fun minor => then_congr fun patch => ?_
  cases ofA : a.preRelease with
  | nil => cases ofB : b.preRelease <;> rfl
  | cons identifier rest =>
      cases ofB : b.preRelease with
      | nil => rfl
      | cons identifier' rest' =>
          have siblings : a.Siblings b :=
            ⟨by simp [ofA], by simp [ofB], LawfulEqOrd.eq_of_compare major,
              LawfulEqOrd.eq_of_compare minor, LawfulEqOrd.eq_of_compare patch⟩
          exact absurd siblings apart

end Version

theorem isDigit_of_mem_numeral {value : Nat} {c : Char} (mem : c ∈ numeral value) :
    c.isDigit = true :=
  Nat.isDigit_of_mem_toDigits (by decide) (by decide) mem

theorem numeral_ne_nil (value : Nat) : numeral value ≠ [] := Nat.toDigits_ne_nil

theorem not_mem_numeral {c : Char} (other : c.isDigit = false) (value : Nat) :
    c ∉ numeral value := by
  intro mem
  rw [isDigit_of_mem_numeral mem] at other
  cases other

end Lecoo.Data.SemVer
