import RuleOrder.Order.Move
import RuleOrder.Order.Reindex

namespace RuleOrder

structure Reconciler where
  canonical : List Nat := []
  source : Source := .fetch
  tieBreak : TieBreak := .fetchOrder
deriving DecidableEq, Repr

namespace Reconciler

def new (tb : TieBreak) : Reconciler := { tieBreak := tb }

def seed (s : Reconciler) (rs : List Forward) (cached : Option (List Nat)) : Reconciler :=
  let (order, source) := initial rs cached s.tieBreak
  { s with canonical := order, source }

def reconcile (s : Reconciler) (rs : List Forward) : Reconciler :=
  s.seed rs (if s.canonical.isEmpty then none else some s.canonical)

def reindex (s : Reconciler) : Update := dense s.canonical

def move (s : Reconciler) (visible : List Nat) (src dst : Nat) : Option (Reconciler × Update) :=
  match relocate s.canonical visible src dst with
  | none => none
  | some order =>
    if order = s.canonical then none
    else
      let s' := { s with canonical := order, source := .local }
      some (s', s'.reindex)

def reset (s : Reconciler) : Reconciler := { s with canonical := [], source := .fetch }

end Reconciler
end RuleOrder
