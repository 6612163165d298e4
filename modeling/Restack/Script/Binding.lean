import Restack.Script.Grammar

/-!
# Which of two forms binds tighter

Forms on numbered tiers are compared by their numbers. All others stand in orders of precedence, by
the names of their tiers or by their rules; the first order that holds both decides.
-/

namespace Restack.Script

/-- The tier of a form, if it has one, and the rules that it belongs to. -/
structure Binding where
  tier : Option Tier
  rules : List Rule

namespace Tier

/-- The number of a tier; a form without a tier has the number zero. -/
def rank? : Option Tier → Option Int
  | none => some 0
  | some (.rank n) => some n
  | some _ => none

end Tier

namespace Binding

/-- Whether a form stands at a place in an order of precedence. -/
def standsAt (binding : Binding) : PrecedenceEntry → Bool
  | .tier t => binding.tier == some t
  | .rule r => binding.rules.contains r

/-- Compares two forms by an order of precedence that holds both. -/
def compareBy? (a b : Binding) (order : List PrecedenceEntry) : Option Ordering := do
  let i ← order.findIdx? a.standsAt
  let j ← order.findIdx? fun place => b.standsAt place && !a.standsAt place
  return if i < j then .gt else .lt

/-- Compares how tightly two forms bind. -/
def compare (a b : Binding) : Ordering :=
  let byOrder := (precedence.findSome? (a.compareBy? b)).getD .eq
  match Tier.rank? a.tier, Tier.rank? b.tier with
  | some m, some n => if m == 0 && n == 0 then byOrder else Ord.compare m n
  | _, _ => byOrder

end Binding

end Restack.Script
