import Mathlib.Logic.Basic

namespace Lecoo.Gui

/-! # The battery card of the overview -/

structure BatteryCardProps where
  percent : Option Nat
  limitMin : Nat
  limitMax : Nat
  acConnected : Option Bool
deriving Repr, DecidableEq

namespace BatteryCardProps

variable (props : BatteryCardProps)

def value : Nat := props.percent.getD 0

/-- `(0, 0)` is what is reported when no limit is set. -/
def hasLimit : Bool := props.limitMax > 0 && props.limitMax < 100

def atLimit : Bool := props.hasLimit && props.value ≥ props.limitMax

def charging : Bool := props.acConnected == some true && !props.atLimit && props.value < 100

/-- With the charger connected the card shows charging up to the limit, or up to
full when there is none. -/
theorem charging_iff (connected : props.acConnected = some true) :
    props.charging = true ↔
      props.value < if 0 < props.limitMax ∧ props.limitMax < 100 then props.limitMax else 100 := by
  by_cases limited : 0 < props.limitMax ∧ props.limitMax < 100
  · have limits : props.hasLimit = true := by simpa [hasLimit] using limited
    rw [if_pos limited]
    simp only [charging, atLimit, connected, limits, beq_self_eq_true, Bool.true_and,
      Bool.and_eq_true, Bool.not_eq_true', decide_eq_false_iff_not, decide_eq_true_eq]
    omega
  · have unlimited : props.hasLimit = false := by simpa [hasLimit] using limited
    simp [charging, atLimit, connected, unlimited, limited]

end BatteryCardProps

end Lecoo.Gui
