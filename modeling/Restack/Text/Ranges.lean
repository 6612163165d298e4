/-!
# Looking a code point up in a table of ranges

The character classes of this library are ascending tables of closed ranges. They are searched by
halving, so that a class of many hundred ranges costs about ten comparisons.
-/

namespace Restack.Text

/-- The place in an ascending table at which `order` says that the sought entry is: `order` gives
`.lt` for an entry that lies after the sought one, `.gt` for an entry that lies before it. -/
def searchTable {α : Type} (table : Array α) (order : α → Ordering) : Option α :=
  go table.size 0 table.size
where
  /-- Halves the stretch from `low` up to but not including `high`. -/
  go : Nat → Nat → Nat → Option α
    | 0, _, _ => none
    | fuel + 1, low, high =>
      if low < high then
        let middle := (low + high) / 2
        match table[middle]? with
        | none => none
        | some entry =>
          match order entry with
          | .lt => go fuel low middle
          | .gt => go fuel (middle + 1) high
          | .eq => some entry
      else none

/-- Where a number lies relative to the closed range from `first` to `last`. -/
def rangeOrder (n first last : Nat) : Ordering :=
  if n < first then .lt else if last < n then .gt else .eq

/-- Whether one of the ascending closed ranges holds the number. -/
def inRanges (table : Array (Nat × Nat)) (n : Nat) : Bool :=
  (searchTable table fun range => rangeOrder n range.1 range.2).isSome

end Restack.Text
