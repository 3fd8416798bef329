import RuleOrder.Order.Seed

namespace RuleOrder

def moveAt {α : Type} (xs : List α) (i j : Nat) : List α :=
  if h : i < xs.length ∧ j < xs.length then
    have hi : i < xs.length := h.1
    (xs.eraseIdx i).insertIdx j xs[i]
  else xs

def relocate (canonical visible : List Nat) (src dst : Nat) : Option (List Nat) :=
  if src = dst then none
  else
    match visible.idxOf? src, visible.idxOf? dst with
    | some oldIdx, some newIdx =>
      if dst ∉ canonical then none
      else
        match canonical.idxOf? src with
        | none => none
        | some fromPos =>
          let rest := canonical.eraseIdx fromPos
          match rest.idxOf? dst with
          | none => none
          | some toPos => some (rest.insertIdx (if newIdx < oldIdx then toPos else toPos + 1) src)
    | _, _ => none

end RuleOrder
