namespace RuleOrder.Ranges

def within (t : Array (Nat × Nat)) (c : Nat) (lo hi : Nat) : Bool :=
  if lo < hi then
    let mid := (lo + hi) / 2
    if h : mid < t.size then
      let (a, b) := t[mid]
      if c < a then within t c lo mid
      else if b < c then within t c (mid + 1) hi
      else true
    else false
  else false
termination_by hi - lo

def contains (t : Array (Nat × Nat)) (c : Nat) : Bool := within t c 0 t.size

end RuleOrder.Ranges
