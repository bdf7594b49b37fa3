import Lecoo.Data.Padded
import Mathlib.Algebra.Ring.Nat

namespace Lecoo.Gui

open Std Lecoo.Data.Padded

/-! # The check for updates -/

/-- `str::split_once` -/
def splitOnce (separator : Char) : List Char → Option (List Char × List Char)
  | [] => none
  | c :: rest =>
      if c = separator then some ([], rest)
      else (splitOnce separator rest).map fun (before, after) => (c :: before, after)

/-- The digits of a number read into a `u64`, with both arithmetic steps checked. -/
def accumulate : List Char → Nat → Option Nat
  | [], total => some total
  | c :: digits, total =>
      if c.isDigit then
        let next := total * 10 + (c.toNat - '0'.toNat)
        if next < 2 ^ 64 then accumulate digits next else none
      else none

/-- `str::parse::<u64>`, which takes a leading plus sign. -/
def parseU64 : List Char → Option Nat
  | [] => none
  | ['+'] => none
  | '+' :: digits => accumulate digits 0
  | digits => accumulate digits 0

/-- One part of a version, zero when it is not a number. -/
def part (text : List Char) : Nat := (parseU64 text).getD 0

def parse (version : String) : List Nat × Bool :=
  let (numeric, _) := (splitOnce '-' version.toList).getD (version.toList, [])
  let parts := (numeric.splitOn '.').map part
  let hasSuffix := version.toList.contains '-'
  (parts, hasSuffix)

def compareVersion (a b : String) : Ordering :=
  let (aParts, aPre) := parse a
  let (bParts, bPre) := parse b
  let len := max aParts.length bParts.length
  let decided := (List.range len).findSome? fun i =>
    let x := aParts[i]?.getD 0
    let y := bParts[i]?.getD 0
    if x ≠ y then some (compare x y) else none
  -- Same numeric prefix: a non-prerelease is newer than a prerelease.
  decided.getD <|
    match aPre, bPre with
    | false, true => .gt
    | true, false => .lt
    | _, _ => .eq

def isNewer (candidate baseline : String) : Bool :=
  compareVersion candidate baseline == .gt

structure GhRelease where
  tagName : String
  htmlUrl : String
  name : Option String
  body : Option String
  prerelease : Bool

structure UpdateCheck where
  currentVersion : String
  latestVersion : String
  updateAvailable : Bool
  releaseUrl : String
  releaseName : Option String
  releaseNotes : Option String
  prerelease : Bool

/-- What is made of the answer of the release list, `current` being the crate's own version. -/
def checkForUpdate (current : String) (releases : Except String (List GhRelease)) :
    Except String UpdateCheck := do
  match ← releases with
  | [] => .error "no releases published yet"
  | release :: _ =>
      let latest := String.ofList (release.tagName.toList.dropWhile (· == 'v'))
      .ok {
        updateAvailable := isNewer latest current
        currentVersion := current
        latestVersion := latest
        releaseUrl := release.htmlUrl
        releaseName := release.name
        releaseNotes := release.body
        prerelease := release.prerelease
      }

theorem splitOnce_absent {separator : Char} {text : List Char} (absent : separator ∉ text) :
    splitOnce separator text = none := by
  induction text with
  | nil => rfl
  | cons c rest earlier =>
      simp only [List.mem_cons, not_or] at absent
      rw [splitOnce, if_neg (Ne.symm absent.1), earlier absent.2, Option.map_none]

theorem splitOnce_first {separator : Char} {before after : List Char}
    (first : separator ∉ before) :
    splitOnce separator (before ++ separator :: after) = some (before, after) := by
  induction before with
  | nil => simp [splitOnce]
  | cons c rest earlier =>
      simp only [List.mem_cons, not_or] at first
      rw [List.cons_append, splitOnce, if_neg (Ne.symm first.1), earlier first.2, Option.map_some]

theorem splitOnce_none {separator : Char} {text : List Char}
    (none : splitOnce separator text = none) :
    separator ∉ text := by
  intro present
  obtain ⟨before, after, split, first⟩ := List.eq_append_cons_of_mem present
  rw [split, splitOnce_first first] at none
  cases none

theorem splitOnce_some {separator : Char} {text before after : List Char}
    (some : splitOnce separator text = some (before, after)) :
    separator ∉ before ∧ text = before ++ separator :: after := by
  have present : separator ∈ text := by
    by_contra absent
    rw [splitOnce_absent absent] at some
    cases some
  obtain ⟨before', after', split, first⟩ := List.eq_append_cons_of_mem present
  rw [split, splitOnce_first first] at some
  cases some
  exact ⟨first, split⟩

theorem parse_without_suffix {text : List Char} (absent : '-' ∉ text) :
    parse (String.ofList text) = ((text.splitOn '.').map part, false) := by
  simp [parse, splitOnce_absent absent, absent]

theorem parse_with_suffix {numeric : List Char} (first : '-' ∉ numeric) (suffix : List Char) :
    parse (String.ofList (numeric ++ '-' :: suffix)) = ((numeric.splitOn '.').map part, true) := by
  simp [parse, splitOnce_first first]

/-- The flags alone: what has a suffix is the older one. -/
def compareFlags (aPre bPre : Bool) : Ordering := compare bPre aPre

instance : TransCmp compareFlags := inferInstanceAs (TransCmp fun a b : Bool => compare b a)

/-- Parts first, padded with zeros, then the flags. -/
def compareParsed : List Nat × Bool → List Nat × Bool → Ordering :=
  compareLex (fun a b => comparePadded 0 a.1 b.1) (fun a b => compareFlags a.2 b.2)

instance : TransCmp compareParsed :=
  haveI := trans_by (comparePadded 0) (fun parsed : List Nat × Bool => parsed.1)
  haveI := trans_by compareFlags (fun parsed : List Nat × Bool => parsed.2)
  inferInstanceAs (TransCmp (compareLex _ _))

theorem compareVersion_eq (a b : String) :
    compareVersion a b = compareParsed (parse a) (parse b) := by
  unfold compareVersion
  obtain ⟨aParts, aPre⟩ := parse a
  obtain ⟨bParts, bPre⟩ := parse b
  have loop := loop_eq_compareBelow (entry 0 aParts) (entry 0 bParts) (compareFlags aPre bPre)
    (max aParts.length bParts.length)
  cases aPre <;> cases bPre <;> exact loop

instance : TransCmp compareVersion where
  eq_swap := by
    intro a b
    rw [compareVersion_eq, compareVersion_eq]
    exact OrientedCmp.eq_swap
  isLE_trans := by
    intro a b c before after
    rw [compareVersion_eq] at before after ⊢
    exact TransCmp.isLE_trans before after

theorem isNewer_iff (candidate baseline : String) :
    isNewer candidate baseline = true ↔ compareVersion candidate baseline = .gt :=
  beq_iff_eq

/-- As many parts `.0` as given, after the numeric part of a version. -/
def appendZeros (count : Nat) (version : String) : String :=
  let zeros := (List.replicate count ['.', '0']).flatten
  match splitOnce '-' version.toList with
  | some (numeric, suffix) => String.ofList (numeric ++ zeros ++ '-' :: suffix)
  | none => String.ofList (version.toList ++ zeros)

theorem splitOn_zeros (numeric : List Char) (count : Nat) :
    (numeric ++ (List.replicate count ['.', '0']).flatten).splitOn '.' =
      numeric.splitOn '.' ++ List.replicate count ['0'] := by
  induction count generalizing numeric with
  | zero => simp
  | succ count earlier =>
      have regroup : numeric ++ (List.replicate (count + 1) ['.', '0']).flatten =
          numeric ++ '.' :: (['0'] ++ (List.replicate count ['.', '0']).flatten) := by
        simp [List.replicate_succ]
      rw [regroup, List.splitOn_append_cons_self, earlier]
      rfl

/-- A version with more zeros is read as the same parts and more zeros. -/
theorem parse_appendZeros (count : Nat) (version : String) :
    parse (appendZeros count version) =
      ((parse version).1 ++ List.replicate count 0, (parse version).2) := by
  have zeros : '-' ∉ (List.replicate count ['.', '0']).flatten := by
    simp only [List.mem_flatten, List.mem_replicate]
    intro ⟨piece, ⟨_, isZero⟩, dash⟩
    rw [isZero] at dash
    revert dash
    decide
  have mapped : ∀ numeric : List Char,
      ((numeric ++ (List.replicate count ['.', '0']).flatten).splitOn '.').map part =
        (numeric.splitOn '.').map part ++ List.replicate count 0 := by
    intro numeric
    rw [splitOn_zeros, List.map_append, List.map_replicate]
    rfl
  unfold appendZeros
  cases split : splitOnce '-' version.toList with
  | none =>
      have absent := splitOnce_none split
      have original := parse_without_suffix absent
      rw [String.ofList_toList] at original
      rw [original, parse_without_suffix (by simp [absent, zeros]), mapped]
  | some halves =>
      obtain ⟨numeric, suffix⟩ := halves
      obtain ⟨first, shape⟩ := splitOnce_some split
      have original := parse_with_suffix first suffix
      rw [← shape, String.ofList_toList] at original
      rw [original, parse_with_suffix (by simp [first, zeros]), mapped]

theorem compareVersion_appendZeros (count : Nat) (a b : String) :
    compareVersion (appendZeros count a) b = compareVersion a b := by
  rw [compareVersion_eq, compareVersion_eq, parse_appendZeros]
  simp only [compareParsed, compareLex, comparePadded_append_blanks]

theorem compareVersion_appendZeros_right (count : Nat) (a b : String) :
    compareVersion b (appendZeros count a) = compareVersion b a := by
  have left := congrArg Ordering.swap (compareVersion_appendZeros count a b)
  rw [← OrientedCmp.eq_swap, ← OrientedCmp.eq_swap] at left
  exact left

/-- The comparison never contradicts itself, whatever the strings are. -/
theorem compareVersion_total_preorder :
    (∀ a, compareVersion a a = .eq) ∧
    (∀ a b, compareVersion b a = (compareVersion a b).swap) ∧
    (∀ a b c, compareVersion a b ≠ .gt → compareVersion b c ≠ .gt → compareVersion a c ≠ .gt) ∧
    (∀ a, isNewer a a = false) ∧
    (∀ a b, isNewer a b = true → isNewer b a = false) ∧
    (∀ a b c, isNewer a b = true → isNewer b c = true → isNewer a c = true) ∧
    (∀ count a b, compareVersion (appendZeros count a) b = compareVersion a b ∧
      compareVersion b (appendZeros count a) = compareVersion b a) := by
  refine ⟨fun a => ReflCmp.compare_self, fun a b => OrientedCmp.eq_swap, ?_, ?_, ?_, ?_, ?_⟩
  · intro a b c before after
    exact Ordering.isLE_iff_ne_gt.mp (TransCmp.isLE_trans
      (Ordering.isLE_iff_ne_gt.mpr before) (Ordering.isLE_iff_ne_gt.mpr after))
  · intro a
    have same : compareVersion a a = .eq := ReflCmp.compare_self
    simp [isNewer, same]
  · intro a b newer
    have older : compareVersion b a = .lt := OrientedCmp.gt_iff_lt.mp ((isNewer_iff a b).mp newer)
    simp [isNewer, older]
  · intro a b c newer newest
    exact (isNewer_iff a c).mpr
      (TransCmp.gt_trans ((isNewer_iff a b).mp newer) ((isNewer_iff b c).mp newest))
  · intro count a b
    exact ⟨compareVersion_appendZeros count a b, compareVersion_appendZeros_right count a b⟩

end Lecoo.Gui
