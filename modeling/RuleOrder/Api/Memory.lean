import RuleOrder.Api.Envelope
import RuleOrder.Order.Reindex
import RuleOrder.Log.Record
import RuleOrder.View.Filter

namespace RuleOrder

structure Caller where
  userId : Nat
  isAdmin : Bool := false
deriving DecidableEq, Repr, Inhabited

inductive PushFault where
  | reject (code : Int) (msg : String)
  | transport (msg : String)
deriving DecidableEq, Repr

def errorCode : Int := -1

structure MemoryApi where
  caller : Caller
  records : List Forward
  faults : List PushFault := []
  pushes : Nat := 0
deriving Repr

namespace MemoryApi

def visibleToCaller (api : MemoryApi) (r : Forward) : Bool :=
  api.caller.isAdmin || r.belongsTo api.caller.userId

def fetch (api : MemoryApi) : List Forward := api.records.filter api.visibleToCaller

def failNextPush (api : MemoryApi) (f : PushFault) : MemoryApi := { api with faults := api.faults ++ [f] }

def insert (api : MemoryApi) (r : Forward) : MemoryApi := { api with records := api.records ++ [r] }

def remove (api : MemoryApi) (id : Nat) : MemoryApi :=
  { api with records := api.records.filter (·.id != id) }

/-- Stored position per id, sorted by id; a repeated id shows its last rule. -/
def storedIndex (api : MemoryApi) : List (Nat × Option Int) :=
  let ids := (dedup (api.records.map (·.id))).mergeSort (· ≤ ·)
  ids.filterMap fun id => (lastById api.records id).map fun r => (id, r.inx)

def ownsAll (api : MemoryApi) (u : Update) : Bool :=
  u.forwards.all fun e => api.records.any fun r => r.id == e.id && r.belongsTo api.caller.userId

def push (api : MemoryApi) (u : Update) :
    MemoryApi × Except Failure (Envelope Unit) × List LogRecord :=
  let counted := { api with pushes := api.pushes + 1 }
  match api.faults with
  | f :: rest =>
    let after := { counted with faults := rest }
    match f with
    | .reject code msg => (after, .ok (Envelope.err code msg), [])
    | .transport msg => (after, .error (.transport msg), [])
  | [] =>
    if u.isEmpty then (counted, .ok (Envelope.err errorCode "forwards must not be empty"), [])
    else if !api.caller.isAdmin && !api.ownsAll u then
      (counted, .ok (Envelope.err errorCode "only own forwards can be reordered"), [])
    else
      let updated := { counted with records := applyUpdate api.records u }
      (updated, .ok (Envelope.done "order updated"),
        [⟨.info, backendTarget, "User " ++ toString api.caller.userId ++ " updated order of " ++
          toString u.size ++ " forwards"⟩])

end MemoryApi
end RuleOrder
