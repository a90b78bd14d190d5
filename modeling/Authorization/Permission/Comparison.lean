import Authorization.Permission.Basic

namespace Authorization.Permission

variable {π : Type} [Permission π] [DecidableEq π]

/-- Equality up to the permission's own grant option. -/
def equalIgnoringGrantOption (a b : π) : Bool :=
  plain a = plain b

/-- Equality up to all grant options. -/
def sameIdentity (a b : π) : Bool :=
  bare a = bare b

/-- A wrapped permission of the request has no grant option that the held one lacks. -/
def postCreateDominated (requested held : π) : Bool :=
  !(postCreateGrantOption requested = some true ∧ postCreateGrantOption held = some false)

/-- Whether the holder of one permission may grant another. -/
def isGrantableFrom (requested held : π) : Bool :=
  withGrantOption held && sameIdentity requested held && postCreateDominated requested held

/-- Whether holding one permission covers a request for another. -/
def isSatisfiedBy (requested held : π) : Bool :=
  sameIdentity requested held && (!withGrantOption requested || withGrantOption held) &&
    postCreateDominated requested held

end Authorization.Permission
