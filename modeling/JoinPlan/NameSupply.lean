import JoinPlan.Dict

/-!
# A supply of names

Fragments, windows and stages get names that no other has. The parts of a name are joined by
underscores, and a number behind them counts how often the same text was asked for. So the same
requests always get the same names.
-/

namespace JoinPlan

/-- How often each text was asked for. -/
structure NameSupply where
  counts : Dict Nat
deriving Inhabited

namespace NameSupply

def new : NameSupply := ⟨Dict.empty⟩

/-- The parts that are not empty, joined by underscores. -/
def stem (parts : List String) : String :=
  "_".intercalate (parts.filter (· ≠ ""))

def count (ns : NameSupply) (stem : String) : Nat :=
  (ns.counts.get? stem).getD 0

/-- A new name, and the supply after it. -/
def fresh (ns : NameSupply) (parts : List String) : String × NameSupply :=
  let stem := stem parts
  let n := ns.count stem + 1
  (stem ++ "_" ++ toString n, ⟨ns.counts.insert stem n⟩)

end NameSupply

end JoinPlan
