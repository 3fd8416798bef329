import RuleOrder.Order.Update
import RuleOrder.Order.Seed

namespace RuleOrder

def dense (order : List Nat) : Update :=
  ⟨order.zipIdx.map fun (id, k) => ⟨id, (k : Int) + 1⟩⟩

def applyUpdate (rs : List Forward) (u : Update) : List Forward :=
  rs.map fun r =>
    match u.positionOf r.id with
    | some inx => r.withInx inx
    | none => r

def isPermutationOf (order : List Nat) (rs : List Forward) : Bool :=
  order.length == (fetchOrder rs).length && order.all (· ∈ Forward.ids rs) && decide order.Nodup

end RuleOrder
