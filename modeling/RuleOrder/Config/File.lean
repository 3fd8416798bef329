import RuleOrder.Config.Panel
import RuleOrder.Files.Tree

namespace RuleOrder
namespace PanelConfig

def load (t : Tree) (rel : String) : Except Failure PanelConfig := do
  if !t.exists_ rel then return default
  let shown := shownAt rel
  let unreadable := fun (e : IoError) => Failure.storage ("Failed to read " ++ shown ++ ": " ++ e.message)
  let text ← match t.readFile rel with
    | .error e => throw (unreadable e)
    | .ok (.database _) => throw (unreadable .invalidUtf8)
    | .ok (.bytes b) =>
      match Utf8.decode? b with
      | some s => pure s
      | none => throw (unreadable .invalidUtf8)
  let c ← (read text).mapError fun e => .invalidInput ("Invalid config " ++ shown ++ ": " ++ e.message)
  c.validate
  pure c

def save (t : Tree) (rel : String) (c : PanelConfig) : Except Failure Tree := do
  let t ← match parentText? rel with
    | some parent => (t.createDirAll parent).mapError fun e => .storage e.message
    | none => pure t
  (t.writeFile rel (Utf8.encode c.text)).mapError fun e => .storage e.message

end PanelConfig
end RuleOrder
