import RuleOrder.Session.Settings
import RuleOrder.Api.Memory
import RuleOrder.Cache.Order
import RuleOrder.Order.Reconciler
import RuleOrder.View.Export

namespace RuleOrder

structure Session where
  api : MemoryApi
  cache : OrderCache
  settings : SessionSettings
  records : List Forward := []
  filter : ViewFilter
  reconciler : Reconciler

abbrev Logged (α : Type) := α × List LogRecord

def sourceName (s : Source) : String := s.name

namespace Session

def new (api : MemoryApi) (cache : OrderCache) (settings : SessionSettings) : Session where
  api
  cache
  settings
  filter := ViewFilter.forOwner settings.owner
  reconciler := Reconciler.new settings.tieBreak

def canonical (s : Session) : List Nat := s.reconciler.canonical

def source (s : Session) : Source := s.reconciler.source

def info (msg : String) : LogRecord := ⟨.info, sessionTarget, msg⟩

def warn (msg : String) : LogRecord := ⟨.warn, sessionTarget, msg⟩

/-- The cached order; an unreadable cache counts as empty. -/
def readCache (s : Session) : Logged (Option (List Nat)) :=
  match s.cache.get s.settings.cacheKey with
  | .ok cached => (cached, [])
  | .error e => (none, [warn ("Ignoring unreadable order cache: " ++ e.message)])

/-- Stores the canonical order; a failure is only logged. -/
def writeCache (s : Session) : Logged Session :=
  let (cache, r) := s.cache.set s.settings.cacheKey s.canonical
  let s := { s with cache }
  match r with
  | .ok () => (s, [])
  | .error e => (s, [warn ("Failed to cache forward order: " ++ e.message)])

def writeIfServer (s : Session) : Logged Session :=
  if s.source = .server then s.writeCache else (s, [])

def loadRecords (s : Session) (records : List Forward) : Logged Session :=
  let inScope := s.filter.scope records
  let (cached, l1) := s.readCache
  let s := { s with reconciler := s.reconciler.seed inScope cached, records }
  let (s, l2) := s.writeIfServer
  let msg := "Loaded " ++ toString records.length ++ " forwards (" ++ toString inScope.length ++
    " in scope), order from " ++ s.source.name
  (s, l1 ++ l2 ++ [info msg])

def load (s : Session) : Logged Session := s.loadRecords s.api.fetch

/-- A load from a backend whose fetch answered `fetched`: a failed fetch is the answer, and leaves
the session as it was. -/
def loadFrom (s : Session) (fetched : Except Failure (List Forward)) : Logged (Session × Except Failure (List Nat)) :=
  match fetched with
  | .ok records =>
    let (s, l) := s.loadRecords records
    ((s, .ok s.canonical), l)
  | .error e => ((s, .error e), [])

def refreshWith (s : Session) (records : List Forward) : Logged Session :=
  let inScope := s.filter.scope records
  let (s, l1) :=
    if s.canonical.isEmpty then
      let (cached, l) := s.readCache
      ({ s with reconciler := s.reconciler.seed inScope cached }, l)
    else ({ s with reconciler := s.reconciler.reconcile inScope }, [])
  let (s, l2) := { s with records }.writeIfServer
  (s, l1 ++ l2)

def refresh (s : Session) : Logged Session := s.refreshWith s.api.fetch

def refreshFrom (s : Session) (fetched : Except Failure (List Forward)) : Logged (Session × Except Failure (List Nat)) :=
  match fetched with
  | .ok records =>
    let (s, l) := s.refreshWith records
    ((s, .ok s.canonical), l)
  | .error e => ((s, .error e), [])

/-- Another user: drops the records and the order, keeps the tunnel and search filters. -/
def switchOwner (s : Session) (owner : Option Nat) : Session :=
  if s.settings.owner = owner then s
  else
    let settings := { s.settings with owner }
    let filter := { s.filter with owner }
    { s with settings, filter, records := [], reconciler := s.reconciler.reset }

/-- Replaces the tunnel and search filters; the owner stays the session's. -/
def setFilter (s : Session) (f : ViewFilter) : Session :=
  { s with filter := { f with owner := s.settings.owner } }

def setTunnelFilter (s : Session) (tunnel : Option Nat) : Session :=
  { s with filter := { s.filter with tunnel } }

def setSearch (s : Session) (text : String) : Session :=
  { s with filter := s.filter.withSearch text }

def visibleIds (s : Session) : List Nat := s.filter.visible s.canonical s.records

def visibleRecords (s : Session) : List Forward := s.visibleIds.filterMap (lastById s.records)

def reorder (s : Session) (src dst : Nat) : Logged (Session × Option Update) :=
  match s.reconciler.move s.visibleIds src dst with
  | none => ((s, none), [⟨.debug, sessionTarget, "Ignoring drag " ++ toString src ++ " -> " ++ toString dst⟩])
  | some (r, u) =>
    let s := { s with reconciler := r, records := applyUpdate s.records u }
    let (s, l) := s.writeCache
    ((s, some u), l ++ [info ("Moved forward " ++ toString src ++ " next to " ++ toString dst)])

def push (s : Session) (u : Update) : Logged (Session × Except Failure Unit) :=
  let (api, answer, l1) := s.api.push u
  let result : Except Failure Unit := match answer with
    | .ok env => env.intoResult.map fun _ => ()
    | .error e => .error e
  let l2 : List LogRecord := match result with
    | .ok () => [info ("Order of " ++ toString u.size ++ " forwards persisted")]
    | .error e =>
      if e.isTransient then [warn ("Forward order not synced, kept locally: " ++ e.message)]
      else [⟨.error, sessionTarget, "Failed to sync forward order: " ++ e.message⟩]
  (({ s with api }, result), l1 ++ l2)

def drag (s : Session) (src dst : Nat) : Logged (Session × Except Failure (Option Update)) :=
  let ((s, moved), l1) := s.reorder src dst
  match moved with
  | none => ((s, .ok none), l1)
  | some u =>
    let ((s, r), l2) := s.push u
    ((s, r.map fun () => some u), l1 ++ l2)

def exportTunnel (s : Session) (tunnel : Nat) : Except Failure String :=
  RuleOrder.exportTunnel (s.filter.scope s.records) s.canonical tunnel

end Session
end RuleOrder
