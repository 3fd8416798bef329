namespace RuleOrder

def dragThreshold : Int := 6

structure MoveEvent (α : Type) where
  src : α
  dst : α
deriving DecidableEq, Repr

inductive DragPhase (α : Type) where
  | idle
  | pending (id : α) (startX startY : Int)
  | dragging (id : α) (hovered : Option α)
deriving DecidableEq, Repr

structure DragTracker (α : Type) where
  phase : DragPhase α := .idle
  threshold : Nat
  dragJustEnded : Bool := false
deriving DecidableEq, Repr

namespace DragTracker

variable {α : Type} [DecidableEq α]

def withThreshold (t : Int) : DragTracker α := { threshold := t.toNat }

def new : DragTracker α := withThreshold dragThreshold

def draggingId (d : DragTracker α) : Option α :=
  match d.phase with
  | .dragging id _ => some id
  | _ => none

def dropTarget (d : DragTracker α) : Option α :=
  match d.phase with
  | .dragging _ hovered => hovered
  | _ => none

def pointerDown (d : DragTracker α) (id : α) (x y : Int) : DragTracker α :=
  { d with phase := .pending id x y }

def pointerMove (d : DragTracker α) (x y : Int) : DragTracker α × Bool :=
  match d.phase with
  | .pending id sx sy =>
    if (x - sx).natAbs > d.threshold || (y - sy).natAbs > d.threshold then
      ({ d with phase := .dragging id none }, true)
    else (d, false)
  | _ => (d, false)

def enter (d : DragTracker α) (target : α) : DragTracker α :=
  match d.phase with
  | .dragging id _ => { d with phase := .dragging id (if id = target then none else some target) }
  | _ => d

def leave (d : DragTracker α) : DragTracker α :=
  match d.phase with
  | .dragging id _ => { d with phase := .dragging id none }
  | _ => d

def pointerUp (d : DragTracker α) : DragTracker α × Option (MoveEvent α) :=
  match d.phase with
  | .dragging id hovered =>
    ({ d with phase := .idle, dragJustEnded := true }, hovered.map fun dst => ⟨id, dst⟩)
  | _ => ({ d with phase := .idle }, none)

def cancel (d : DragTracker α) : DragTracker α :=
  match d.phase with
  | .dragging _ _ => { d with phase := .idle, dragJustEnded := true }
  | _ => { d with phase := .idle }

def takeClickSuppressed (d : DragTracker α) : DragTracker α × Bool :=
  ({ d with dragJustEnded := false }, d.dragJustEnded)

end DragTracker
end RuleOrder
