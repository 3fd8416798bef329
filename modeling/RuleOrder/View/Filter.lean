import RuleOrder.Forward
import RuleOrder.Text.Blank
import RuleOrder.Text.Lower

namespace RuleOrder

structure ViewFilter where
  owner : Option Nat := none
  tunnel : Option Nat := none
  search : Option String := none
deriving DecidableEq, Repr, Inhabited

def occursIn (needle : List Char) : List Char → Bool
  | [] => needle.isEmpty
  | c :: rest => needle.isPrefixOf (c :: rest) || occursIn needle rest

def lastById (rs : List Forward) (id : Nat) : Option Forward :=
  rs.foldl (fun found r => if r.id = id then some r else found) none

namespace ViewFilter

def forOwner (owner : Option Nat) : ViewFilter := { owner }

def withTunnel (f : ViewFilter) (tunnel : Option Nat) : ViewFilter := { f with tunnel }

def withSearch (f : ViewFilter) (text : String) : ViewFilter :=
  let t := Blank.trim text
  { f with search := if t.isEmpty then none else some (Lower.lower t) }

def inScope (f : ViewFilter) (r : Forward) : Bool :=
  match f.owner with
  | some o => r.belongsTo o
  | none => true

def scope (f : ViewFilter) (rs : List Forward) : List Forward := rs.filter f.inScope

def matchesText (needle : String) (r : Forward) : Bool :=
  [r.name, r.remoteAddr, r.inIp, r.tunnelName].any fun field =>
    occursIn needle.toList (Lower.lower field).toList

def shows (f : ViewFilter) (r : Forward) : Bool :=
  f.inScope r &&
    (match f.tunnel with
      | some t => r.tunnel == some t
      | none => true) &&
    (match f.search with
      | some needle => matchesText needle r
      | none => true)

def visible (f : ViewFilter) (canonical : List Nat) (rs : List Forward) : List Nat :=
  canonical.filter fun id =>
    match lastById rs id with
    | some r => f.shows r
    | none => false

end ViewFilter
end RuleOrder
