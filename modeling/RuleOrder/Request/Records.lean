import RuleOrder.Request.Basic

namespace RuleOrder.Request

def decodeRecordRequest (req : Json) : Answer Json := do
  let r ← (Forward.decode (← need req "record")).mapError decodeError
  pure (.obj [("record", r.toJson), ("server_index", .ofOption .ofInt r.serverIndex)])

def buildRecordRequest (req : Json) : Answer Json := do
  let id ← needNat req "id"
  let owner ← needNat req "user_id"
  let inx ← optI64 req "inx"
  let tunnel ← optNat req "tunnel_id"
  let r₀ := Forward.new id owner
  let r₁ := match inx with
    | some i => r₀.withInx i
    | none => r₀
  let r ← match tunnel with
    | some t => do
      let name ← needString req "tunnel_name"
      pure (r₁.withTunnel t name)
    | none => pure r₁
  let check ← optNat req "check_owner"
  pure (.obj [("record", r.toJson), ("server_index", .ofOption .ofInt r.serverIndex),
    ("display_id", .str (toString id)), ("display_owner", .str (toString owner)),
    ("belongs_to", .ofOption (fun o => .bool (r.belongsTo o)) check)])

def failureRequest (req : Json) : Answer Json := do
  let f ← (Failure.decode (← need req "value")).mapError decodeError
  pure (.obj [("display", .str f.message), ("is_transient", .bool f.isTransient),
    ("kind", .str f.kind)])

end RuleOrder.Request
