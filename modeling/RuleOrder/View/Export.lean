import RuleOrder.View.Filter
import RuleOrder.Failure

namespace RuleOrder

def exportLine (r : Forward) : String :=
  r.remoteAddr ++ "|" ++ r.name ++ "|" ++ (match r.inPort with
    | some p => toString p
    | none => "")

def exportTunnel (rs : List Forward) (order : List Nat) (tunnel : Nat) : Except Failure String :=
  let lines := (order.filterMap (lastById rs)).filter (·.tunnel == some tunnel) |>.map exportLine
  if lines.isEmpty then .error (.notFound ("No forwards in tunnel " ++ toString tunnel))
  else .ok ("\n".intercalate lines)

end RuleOrder
