import Lecoo.Data.SemVer
import Lecoo.Gui.Updates
import Mathlib.Data.List.TakeWhile

namespace Lecoo.Gui

open Std Lecoo.Data.Padded Lecoo.Data.SemVer

/-! # The comparison against the precedence of semantic versions

A version is read up to its first hyphen and split at its dots.  That leaves the
build metadata of a release in the part that holds the patch.
-/

theorem le_ofDigitChars (digits : List Char) (total : Nat) :
    total ≤ Nat.ofDigitChars 10 digits total := by
  induction digits generalizing total with
  | nil => simp
  | cons c digits later =>
      rw [Nat.ofDigitChars_cons]
      exact Nat.le_trans (by omega) (later _)

theorem accumulate_digits {digits : List Char} {total : Nat}
    (digit : ∀ c ∈ digits, c.isDigit = true) (fits : Nat.ofDigitChars 10 digits total < 2 ^ 64) :
    accumulate digits total = some (Nat.ofDigitChars 10 digits total) := by
  induction digits generalizing total with
  | nil => simp [accumulate]
  | cons c digits later =>
      rw [Nat.ofDigitChars_cons, Nat.mul_comm 10] at fits ⊢
      have next := Nat.lt_of_le_of_lt (le_ofDigitChars digits _) fits
      rw [accumulate, if_pos (digit c List.mem_cons_self)]
      simp only [next, if_true]
      exact later (fun c' mem => digit c' (List.mem_cons_of_mem c mem)) fits

theorem accumulate_none {text : List Char} {c : Char} (mem : c ∈ text)
    (other : c.isDigit = false) (total : Nat) :
    accumulate text total = none := by
  induction text generalizing total with
  | nil => cases mem
  | cons first rest later =>
      rw [accumulate]
      obtain isFirst | inRest := List.mem_cons.mp mem
      · rw [← isFirst, other]
        rfl
      · simp only [later inRest, ite_self]

theorem parseU64_digit {c : Char} {rest : List Char} (digit : c.isDigit = true) :
    parseU64 (c :: rest) = accumulate (c :: rest) 0 := by
  unfold parseU64
  split
  · contradiction
  · rename_i isPlus
    cases isPlus
    exact absurd digit (by decide)
  · rename_i isPlus
    cases isPlus
    exact absurd digit (by decide)
  · rfl

theorem exists_numeral_eq_cons (value : Nat) :
    ∃ c rest, numeral value = c :: rest ∧ c.isDigit = true := by
  cases shape : numeral value with
  | nil => exact absurd shape (numeral_ne_nil value)
  | cons c rest =>
      exact ⟨c, rest, rfl, isDigit_of_mem_numeral (by rw [shape]; exact List.mem_cons_self)⟩

theorem part_numeral {value : Nat} (fits : value < 2 ^ 64) :
    part (numeral value) = value := by
  have read : accumulate (numeral value) 0 = some value := by
    have digits : Nat.ofDigitChars 10 (numeral value) 0 = value := Nat.ofDigitChars_ten_toDigits
    rw [accumulate_digits (fun c mem => isDigit_of_mem_numeral mem) (by rw [digits]; exact fits),
      digits]
  obtain ⟨c, rest, shape, digit⟩ := exists_numeral_eq_cons value
  rw [part, shape, parseU64_digit digit, ← shape, read, Option.getD_some]

/-- A number with a plus sign behind it is no number any more. -/
theorem part_numeral_plus (value : Nat) (rest : List Char) :
    part (numeral value ++ '+' :: rest) = 0 := by
  obtain ⟨c, digits, shape, digit⟩ := exists_numeral_eq_cons value
  rw [part, shape, List.cons_append, parseU64_digit digit,
    accumulate_none (by simp : '+' ∈ c :: (digits ++ '+' :: rest)) (by decide), Option.getD_none]

/-- A release with build metadata, the kind of version whose patch is not seen. -/
def masked (version : Version) : Bool :=
  version.preRelease = [] ∧ version.build ≠ []

/-- The parts found in build metadata: after its first dot, before its first hyphen. -/
def strayParts (version : Version) : List Nat :=
  (((version.buildText.takeWhile (· != '-')).splitOn '.').tail).map part

/-- A hyphen in the build metadata, which passes for the mark of a pre-release. -/
def strayHyphen (version : Version) : Bool := version.buildText.contains '-'

def reading (version : Version) : List Nat × Bool :=
  if masked version then
    (version.major :: version.minor :: 0 :: strayParts version, strayHyphen version)
  else
    ([version.major, version.minor, version.patch], decide (version.preRelease ≠ []))

/-- The three numbers of a version fit the type they are read into. -/
def Bounded (version : Version) : Prop :=
  version.major < 2 ^ 64 ∧ version.minor < 2 ^ 64 ∧ version.patch < 2 ^ 64

instance (version : Version) : Decidable (Bounded version) := inferInstanceAs (Decidable (_ ∧ _))

theorem not_mem_coreText {c : Char} (notDigit : c.isDigit = false) (notDot : c ≠ '.')
    (version : Version) :
    c ∉ version.coreText := by
  simp [Version.coreText, dotted, not_mem_numeral notDigit, notDot]

theorem coreText_parts {version : Version} (bounded : Bounded version) :
    (version.coreText.splitOn '.').map part = [version.major, version.minor, version.patch] := by
  have dot : ∀ piece ∈ [numeral version.major, numeral version.minor, numeral version.patch],
      '.' ∉ piece := by
    simp [not_mem_numeral (by decide : '.'.isDigit = false)]
  rw [Version.coreText, dotted, List.splitOn_intercalate '.' dot (by simp)]
  simp [part_numeral bounded.1, part_numeral bounded.2.1, part_numeral bounded.2.2]

/-- The last piece before a separator takes in what is put in front of it. -/
theorem splitOn_append {separator : Char} {piece : List Char} (absent : separator ∉ piece)
    (rest : List Char) :
    (piece ++ rest).splitOn separator = (rest.splitOn separator).modifyHead (piece ++ ·) := by
  induction piece with
  | nil => exact (congrFun List.modifyHead_id _).symm
  | cons c piece earlier =>
      simp only [List.mem_cons, not_or] at absent
      rw [List.cons_append, List.splitOn_cons_eq_if_modifyHead, earlier absent.2,
        if_neg (by simp [Ne.symm absent.1]), List.modifyHead_modifyHead]
      rfl

theorem masked_parts {version : Version} (bounded : Bounded version) (build : List Char) :
    ((version.coreText ++ '+' :: build).splitOn '.').map part =
      version.major :: version.minor :: 0 :: ((build.splitOn '.').tail).map part := by
  have digits : ∀ value, '.' ∉ numeral value := not_mem_numeral (by decide)
  have shape : version.coreText ++ '+' :: build =
      numeral version.major ++ '.' :: (numeral version.minor ++ '.' ::
        ((numeral version.patch ++ ['+']) ++ build)) := by
    simp [Version.coreText, dotted]
  rw [shape, List.splitOn_append_cons_self_of_not_mem (digits _),
    List.splitOn_append_cons_self_of_not_mem (digits _),
    splitOn_append (by simp [digits])]
  cases pieces : build.splitOn '.' with
  | nil => exact absurd pieces (List.splitOn_ne_nil '.' build)
  | cons first others =>
      simp [part_numeral bounded.1, part_numeral bounded.2.1, part_numeral_plus]

theorem parse_text {version : Version} (bounded : Bounded version) :
    parse (String.ofList version.text) = reading version := by
  have dash : '-' ∉ version.coreText := not_mem_coreText (by decide) (by decide) version
  unfold reading masked
  by_cases release : version.preRelease = []
  · by_cases plain : version.build = []
    · have shape : version.text = version.coreText := by simp [Version.text, release, plain]
      rw [shape, parse_without_suffix dash, coreText_parts bounded]
      simp [release, plain]
    · have shape : version.text = version.coreText ++ '+' :: version.buildText := by
        simp [Version.text, release, plain]
      have before : '-' ∉ version.coreText ++ '+' :: version.buildText.takeWhile (· != '-') := by
        have visible : '-' ∉ version.buildText.takeWhile (· != '-') := by
          intro mem
          simpa using List.mem_takeWhile_imp mem
        simp [dash, visible]
      by_cases hyphen : '-' ∈ version.buildText
      · obtain ⟨seen, hidden, split, first⟩ := List.eq_append_cons_of_mem hyphen
        have isSeen : version.buildText.takeWhile (· != '-') = seen := by
          rw [split, List.takeWhile_append_of_pos]
          · simp
          · intro c mem
            simpa using fun isDash : c = '-' => first (isDash ▸ mem)
        rw [isSeen] at before
        rw [shape, split, show version.coreText ++ '+' :: (seen ++ '-' :: hidden) =
          (version.coreText ++ '+' :: seen) ++ '-' :: hidden by simp,
          parse_with_suffix before, masked_parts bounded]
        simp [release, plain, strayParts, strayHyphen, isSeen, hyphen]
      · have whole : version.buildText.takeWhile (· != '-') = version.buildText := by
          rw [List.takeWhile_eq_self_iff]
          intro c mem
          simpa using fun isDash : c = '-' => hyphen (isDash ▸ mem)
        rw [whole] at before
        rw [shape, parse_without_suffix before, masked_parts bounded]
        simp [release, plain, strayParts, strayHyphen, whole, hyphen]
  · have shape : version.text = version.coreText ++ '-' :: (version.preReleaseText ++
        if version.build = [] then [] else '+' :: version.buildText) := by
      simp [Version.text, release]
    rw [shape, parse_with_suffix dash, coreText_parts bounded]
    simp [release]

theorem compareVersion_text {a b : Version} (boundedA : Bounded a) (boundedB : Bounded b) :
    compareVersion (String.ofList a.text) (String.ofList b.text) =
      compareParsed (reading a) (reading b) := by
  rw [compareVersion_eq, parse_text boundedA, parse_text boundedB]

/-- A masked release that comes out on the right side of a version whose patch is
seen, major and minor being equal. -/
def KeepsRank (release other : Version) : Prop :=
  if 0 < other.patch then release.patch < other.patch
  else if release.patch = 0 ∧ other.preRelease = [] then
    (∀ value ∈ strayParts release, value = 0) ∧ strayHyphen release = false
  else
    (∃ value ∈ strayParts release, value ≠ 0) ∨
      (strayHyphen release = false ∧ other.preRelease ≠ [])

instance (release other : Version) : Decidable (KeepsRank release other) := by
  unfold KeepsRank
  infer_instance

/-- With major and minor equal, the pairs that are compared as they should be. -/
def PatchesWellCompared (a b : Version) : Prop :=
  match masked a, masked b with
  | false, false => True
  | true, false => KeepsRank a b
  | false, true => KeepsRank b a
  | true, true =>
      (comparePadded 0 (strayParts a) (strayParts b)).then
        (compareFlags (strayHyphen a) (strayHyphen b)) = compare a.patch b.patch

instance (a b : Version) : Decidable (PatchesWellCompared a b) := by
  unfold PatchesWellCompared
  split <;> infer_instance

/-- The pairs of versions that are compared as they should be. -/
def WellCompared (a b : Version) : Prop :=
  a.major ≠ b.major ∨ a.minor ≠ b.minor ∨ PatchesWellCompared a b

instance (a b : Version) : Decidable (WellCompared a b) :=
  inferInstanceAs (Decidable (_ ∨ _ ∨ _))

/-- What is read after major and minor. -/
def patchParts (version : Version) : List Nat :=
  if masked version then 0 :: strayParts version else [version.patch]

theorem reading_eq (version : Version) :
    reading version = (version.major :: version.minor :: patchParts version, (reading version).2) := by
  unfold reading patchParts
  split <;> rfl

/-- Two readings compared after major and minor. -/
def comparePatches (a b : Version) : Ordering :=
  (comparePadded 0 (patchParts a) (patchParts b)).then
    (compareFlags (reading a).2 (reading b).2)

theorem compareParsed_reading (a b : Version) :
    compareParsed (reading a) (reading b) =
      (compare a.major b.major).then ((compare a.minor b.minor).then (comparePatches a b)) := by
  rw [reading_eq a, reading_eq b]
  simp only [compareParsed, compareLex, comparePadded_cons, Ordering.then_assoc]
  rfl

/-- Precedence after major and minor. -/
def patchPrecedence (a b : Version) : Ordering :=
  (compare a.patch b.patch).then
    (compare (decide (b.preRelease ≠ [])) (decide (a.preRelease ≠ [])))

theorem masked_iff (version : Version) :
    masked version = true ↔ version.preRelease = [] ∧ version.build ≠ [] := by
  simp [masked]

theorem comparePatches_plain {a b : Version} (plainA : masked a = false)
    (plainB : masked b = false) :
    comparePatches a b = patchPrecedence a b := by
  unfold comparePatches patchParts reading patchPrecedence compareFlags
  simp [plainA, plainB]

theorem comparePatches_swap (a b : Version) :
    comparePatches a b = (comparePatches b a).swap := by
  unfold comparePatches
  rw [Ordering.swap_then, ← OrientedCmp.eq_swap, ← OrientedCmp.eq_swap]

theorem patchPrecedence_swap (a b : Version) :
    patchPrecedence a b = (patchPrecedence b a).swap := by
  unfold patchPrecedence
  rw [Ordering.swap_then, ← OrientedCmp.eq_swap, ← OrientedCmp.eq_swap]

theorem comparePatches_masked {release other : Version} (hidden : masked release = true)
    (plain : masked other = false) :
    comparePatches release other = patchPrecedence release other ↔ KeepsRank release other := by
  obtain ⟨isRelease, _⟩ := (masked_iff release).mp hidden
  have read : comparePatches release other = (compare 0 other.patch).then
      ((if ∀ value ∈ strayParts release, value = 0 then .eq else .gt : Ordering).then
        (compare (decide (other.preRelease ≠ [])) (strayHyphen release))) := by
    have least : ∀ value : Nat, compare value 0 ≠ .lt := by simp [Nat.compare_eq_lt]
    rw [← comparePadded_nil least]
    simp [comparePatches, patchParts, reading, hidden, plain, compareFlags, Ordering.then_assoc]
  have meant : patchPrecedence release other = (compare release.patch other.patch).then
      (compare (decide (other.preRelease ≠ [])) false) := by
    simp [patchPrecedence, isRelease]
  have ahead : compare true false = .gt := rfl
  have behind : compare false true = .lt := rfl
  rw [read, meant]
  unfold KeepsRank
  by_cases positive : 0 < other.patch
  · -- the hidden patch is read as zero, below the other one
    rw [if_pos positive, Nat.compare_eq_lt.mpr positive]
    cases order : compare release.patch other.patch with
    | lt => simpa using Nat.compare_eq_lt.mp order
    | eq =>
        have same := Nat.compare_eq_eq.mp order
        cases decide (other.preRelease ≠ []) <;> simp [same]
    | gt => simpa using Nat.le_of_lt (Nat.compare_eq_gt.mp order)
  · have zero : other.patch = 0 := by omega
    have zeros : (∃ value ∈ strayParts release, value ≠ 0) ↔
        ¬ ∀ value ∈ strayParts release, value = 0 := by
      simp only [not_forall, exists_prop]
    rw [if_neg positive, zero, Nat.compare_eq_eq.mpr rfl, zeros]
    by_cases level : release.patch = 0 ∧ other.preRelease = []
    · -- two releases of the same numbers, to be read as equal
      rw [if_pos level, Nat.compare_eq_eq.mpr level.1]
      by_cases blank : ∀ value ∈ strayParts release, value = 0
      · rw [if_pos blank, and_iff_right blank]
        cases strayHyphen release <;> simp [level.2, behind]
      · rw [if_neg blank]
        cases strayHyphen release <;> simp only [level.2, blank] <;> simp
    · -- the masked release is the newer one
      have above : (compare release.patch 0).then
          (compare (decide (other.preRelease ≠ [])) false) = .gt := by
        cases order : release.patch with
        | zero =>
            have pre : other.preRelease ≠ [] := fun none => level ⟨order, none⟩
            simp [pre, ahead]
        | succ patch => rw [Nat.compare_eq_gt.mpr (Nat.succ_pos patch)]; rfl
      rw [if_neg level, above]
      by_cases blank : ∀ value ∈ strayParts release, value = 0
      · rw [if_pos blank, or_iff_right (not_not_intro blank)]
        by_cases pre : other.preRelease = [] <;>
          cases strayHyphen release <;> simp [pre, ahead, behind]
      · rw [if_neg blank]
        simp only [blank, not_false_eq_true, true_or, iff_true]
        rfl

/-- Both patches hidden, the build metadata alone decides. -/
theorem comparePatches_both_masked {a b : Version} (hiddenA : masked a = true)
    (hiddenB : masked b = true) :
    comparePatches a b = patchPrecedence a b ↔
      (comparePadded 0 (strayParts a) (strayParts b)).then
        (compareFlags (strayHyphen a) (strayHyphen b)) = compare a.patch b.patch := by
  have releaseA := ((masked_iff a).mp hiddenA).1
  have releaseB := ((masked_iff b).mp hiddenB).1
  simp [comparePatches, patchParts, reading, patchPrecedence, hiddenA, hiddenB, releaseA, releaseB]

theorem patchesWellCompared_iff (a b : Version) :
    PatchesWellCompared a b ↔ comparePatches a b = patchPrecedence a b := by
  unfold PatchesWellCompared
  cases hiddenA : masked a with
  | false =>
      cases hiddenB : masked b with
      | false => exact iff_of_true trivial (comparePatches_plain hiddenA hiddenB)
      | true =>
          rw [comparePatches_swap, patchPrecedence_swap, Ordering.swap_inj]
          exact (comparePatches_masked hiddenB hiddenA).symm
  | true =>
      cases hiddenB : masked b with
      | false => exact (comparePatches_masked hiddenA hiddenB).symm
      | true => exact (comparePatches_both_masked hiddenA hiddenB).symm

theorem compareVersion_eq_precedence_iff {a b : Version} (boundedA : Bounded a)
    (boundedB : Bounded b) (apart : ¬ a.Siblings b) :
    compareVersion (String.ofList a.text) (String.ofList b.text) = a.precedence b ↔
      WellCompared a b := by
  rw [compareVersion_text boundedA boundedB, compareParsed_reading, Version.precedence_eq apart]
  by_cases major : a.major = b.major
  · by_cases minor : a.minor = b.minor
    · rw [WellCompared, or_iff_right (not_not_intro major), or_iff_right (not_not_intro minor),
        patchesWellCompared_iff, Nat.compare_eq_eq.mpr major, Nat.compare_eq_eq.mpr minor]
      exact Iff.rfl
    · refine iff_of_true ?_ (.inr (.inl minor))
      exact then_congr fun _ => then_congr fun equal => absurd (Nat.compare_eq_eq.mp equal) minor
  · refine iff_of_true ?_ (.inl major)
    exact then_congr fun equal => absurd (Nat.compare_eq_eq.mp equal) major

theorem isNewer_of_eq_precedence {a b : Version}
    (same : compareVersion (String.ofList a.text) (String.ofList b.text) = a.precedence b) :
    isNewer (String.ofList a.text) (String.ofList b.text) = true ↔ a.precedence b = .gt := by
  rw [isNewer_iff, same]

/-- The comparison is precedence on the well compared pairs and on no others. -/
theorem compareVersion_precedence_iff {a b : Version} (boundedA : Bounded a)
    (boundedB : Bounded b) (apart : ¬ a.Siblings b) :
    (compareVersion (String.ofList a.text) (String.ofList b.text) = a.precedence b ∧
      (isNewer (String.ofList a.text) (String.ofList b.text) = true ↔ a.precedence b = .gt)) ↔
      WellCompared a b := by
  rw [and_iff_left_of_imp isNewer_of_eq_precedence]
  exact compareVersion_eq_precedence_iff boundedA boundedB apart

/-- `1.3.0-rc.1` -/
def nextCandidate : Version :=
  { major := 1
    minor := 3
    patch := 0
    preRelease := [.alphanumeric ['r', 'c'] ⟨by decide, 'r', by decide, by decide⟩, .numeric 1]
    build := [] }

/-- `1.0.0` -/
def firstRelease : Version :=
  { major := 1
    minor := 0
    patch := 0
    preRelease := []
    build := [] }

/-- `1.0.1+build` -/
def patchedBuild : Version :=
  { major := 1
    minor := 0
    patch := 1
    preRelease := []
    build := [⟨['b', 'u', 'i', 'l', 'd'], by decide⟩] }

theorem compareVersion_precedence_candidate :
    compareVersion "1.3.0-rc.1" "1.0.0" = nextCandidate.precedence firstRelease ∧
      (isNewer "1.3.0-rc.1" "1.0.0" = true ↔ nextCandidate.precedence firstRelease = .gt) := by
  have candidate : String.ofList nextCandidate.text = "1.3.0-rc.1" := by decide
  have release : String.ofList firstRelease.text = "1.0.0" := by decide
  rw [← candidate, ← release]
  exact (compareVersion_precedence_iff (by decide) (by decide) (by decide)).mpr (by decide)

/-- A patch release with build metadata is not seen as an update. -/
theorem compareVersion_misses_patch :
    (Bounded patchedBuild ∧ Bounded firstRelease ∧ ¬ patchedBuild.Siblings firstRelease) ∧
      (String.ofList patchedBuild.text = "1.0.1+build" ∧
        String.ofList firstRelease.text = "1.0.0") ∧
      patchedBuild.precedence firstRelease = .gt ∧
      compareVersion "1.0.1+build" "1.0.0" = .eq ∧
      isNewer "1.0.1+build" "1.0.0" = false := by
  decide

end Lecoo.Gui
