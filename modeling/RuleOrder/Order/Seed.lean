import RuleOrder.Forward

namespace RuleOrder

inductive TieBreak where
  | fetchOrder
  | byId
deriving DecidableEq, Repr

inductive Source where
  | server
  | cache
  | fetch
  | local
deriving DecidableEq, Repr

def TieBreak.name : TieBreak → String
  | .fetchOrder => "fetch_order"
  | .byId => "id"

def TieBreak.ofName : String → TieBreak
  | "id" => .byId
  | _ => .fetchOrder

def TieBreak.names : List String := ["fetch_order", "id"]

def Source.name : Source → String
  | .server => "Server"
  | .cache => "Cache"
  | .fetch => "Fetch"
  | .local => "Local"

def dedupFrom : List Nat → List Nat → List Nat
  | _, [] => []
  | seen, x :: xs => if x ∈ seen then dedupFrom seen xs else x :: dedupFrom (x :: seen) xs

def dedup (xs : List Nat) : List Nat := dedupFrom [] xs

def firstsFrom : List Nat → List Forward → List Forward
  | _, [] => []
  | seen, r :: rs => if r.id ∈ seen then firstsFrom seen rs else r :: firstsFrom (r.id :: seen) rs

def firsts (rs : List Forward) : List Forward := firstsFrom [] rs

def fetchOrder (rs : List Forward) : List Nat := dedup (Forward.ids rs)

def hasServerOrder (rs : List Forward) : Bool := rs.any (·.serverIndex.isSome)

def serverBefore (tb : TieBreak) (a b : Forward × Nat) : Bool :=
  let tie := match tb with
    | .fetchOrder => a.2 ≤ b.2
    | .byId => a.1.id ≤ b.1.id
  match a.1.serverIndex, b.1.serverIndex with
  | some x, some y => x < y || (x == y && tie)
  | some _, none => true
  | none, some _ => false
  | none, none => tie

def serverOrder (rs : List Forward) (tb : TieBreak) : List Nat :=
  (((firsts rs).zipIdx).mergeSort (serverBefore tb)).map (·.1.id)

def mergeCached (rs : List Forward) (cached : List Nat) : List Nat :=
  let current := fetchOrder rs
  let kept := dedup (cached.filter (· ∈ current))
  kept ++ current.filter (· ∉ kept)

def initial (rs : List Forward) (cached : Option (List Nat)) (tb : TieBreak) : List Nat × Source :=
  if hasServerOrder rs then (serverOrder rs tb, .server)
  else
    match cached with
    | some c => (mergeCached rs c, .cache)
    | none => (fetchOrder rs, .fetch)

end RuleOrder
