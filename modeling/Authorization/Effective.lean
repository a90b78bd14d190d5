import Authorization.Permission.Comparison

namespace Authorization

/-- How far away a grant is: inheritance hops, then domain hops. -/
structure Proximity where
  inheritLevel : Nat
  domainLevel : Nat
  deriving DecidableEq

namespace Proximity

/-- Whether a grant is nearer than another: by inheritance hops, and then by domain hops. -/
def closerThan (a b : Proximity) : Bool :=
  a.inheritLevel < b.inheritLevel ||
    (a.inheritLevel = b.inheritLevel && a.domainLevel < b.domainLevel)

/-- The nearer of a grant found so far, if any, and a new one. -/
def closest (found : Option Proximity) (candidate : Proximity) : Proximity :=
  match found with
  | none => candidate
  | some current => if candidate.closerThan current then candidate else current

end Proximity

/-- A held permission, with the hops from the accessor to the holder of the grant and the hops
from the queried domain up to the domain of the grant. -/
structure EffectivePermission (π : Type) where
  permission : π
  inheritLevel : Nat
  domainLevel : Nat
  deriving DecidableEq

namespace EffectivePermission

variable {π : Type}

/-- A permission held directly on what is queried. -/
def direct (permission : π) : EffectivePermission π := ⟨permission, 0, 0⟩

/-- Two entries agree if they are of one permission, however they were come by. -/
def agrees [DecidableEq π] (a b : EffectivePermission π) : Bool :=
  a.permission = b.permission

def proximity (entry : EffectivePermission π) : Proximity :=
  ⟨entry.inheritLevel, entry.domainLevel⟩

variable [Permission π]

/-- Whether a new entry takes the place of one for the same permission. -/
def outranks (candidate current : EffectivePermission π) : Bool :=
  if Permission.withGrantOption candidate.permission =
      Permission.withGrantOption current.permission then
    candidate.proximity.closerThan current.proximity
  else Permission.withGrantOption candidate.permission

/-- Adds an entry to entries of which no two are for the same permission. -/
def absorb [DecidableEq π] (candidate : EffectivePermission π) :
    List (EffectivePermission π) → List (EffectivePermission π)
  | [] => [candidate]
  | entry :: entries =>
    if Permission.equalIgnoringGrantOption entry.permission candidate.permission then
      (if candidate.outranks entry then candidate else entry) :: entries
    else entry :: absorb candidate entries

/-- One entry for each permission, in order of first appearance. -/
def collapse [DecidableEq π] (collected : List (EffectivePermission π)) :
    List (EffectivePermission π) :=
  collected.foldl (fun entries candidate => absorb candidate entries) []

/-- One entry for each permission, ordered by the written permission. -/
def merge [DecidableEq π] (collected : List (EffectivePermission π)) :
    List (EffectivePermission π) :=
  (collapse collected).mergeSort fun a b => decide (toString a.permission ≤ toString b.permission)

end EffectivePermission

end Authorization
