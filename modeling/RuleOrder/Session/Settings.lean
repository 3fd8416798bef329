import RuleOrder.Config.Panel
import RuleOrder.Auth.Token

namespace RuleOrder

structure SessionSettings where
  cacheKey : String := defaultOrderKey
  tieBreak : TieBreak := .fetchOrder
  owner : Option Nat := none
deriving DecidableEq, Repr, Inhabited

def SessionSettings.ofConfig (c : PanelConfig) : SessionSettings where
  cacheKey := c.cacheKey
  tieBreak := c.tieBreak
  owner := c.token.bind (Token.owner Base64.decodeUrl Json.library)

end RuleOrder
