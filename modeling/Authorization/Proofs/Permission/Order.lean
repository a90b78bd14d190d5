import Authorization.Permission.Comparison

/-! The order of permissions. A permission is fixed by its identity, by the grant option of what it
wraps and by its own. -/
namespace Authorization

/-- The laws that tie the parts of a permission together. -/
class LawfulPermission (π : Type) [Permission π] : Prop where
  plain_eq_iff : ∀ {a b : π}, Permission.plain a = Permission.plain b ↔
    Permission.bare a = Permission.bare b ∧
      Permission.postCreateGrantOption a = Permission.postCreateGrantOption b
  eq_of_plain_eq : ∀ {a b : π}, Permission.plain a = Permission.plain b →
    Permission.withGrantOption a = Permission.withGrantOption b → a = b
  postCreate_isSome : ∀ {a b : π}, Permission.bare a = Permission.bare b →
    (Permission.postCreateGrantOption a).isSome = (Permission.postCreateGrantOption b).isSome
  bare_regrantable : ∀ a : π, Permission.bare (Permission.regrantable a) = Permission.bare a
  withGrantOption_regrantable : ∀ a : π,
    Permission.withGrantOption (Permission.regrantable a) = true
  postCreate_regrantable : ∀ a : π,
    Permission.postCreateGrantOption (Permission.regrantable a) ≠ some false

instance : LawfulPermission ResourcePermission where
  plain_eq_iff := (and_iff_left rfl).symm
  eq_of_plain_eq {a b} hplain hgrant := by
    obtain ⟨name, grant⟩ := a
    obtain ⟨name', grant'⟩ := b
    obtain rfl : name = name' := congrArg ResourcePermission.name hplain
    exact congrArg _ hgrant
  postCreate_isSome _ := rfl
  bare_regrantable _ := rfl
  withGrantOption_regrantable _ := rfl
  postCreate_regrantable _ := nofun

instance : LawfulPermission DomainPermission where
  plain_eq_iff := (and_iff_left rfl).symm
  eq_of_plain_eq {a b} hplain hgrant := by
    obtain ⟨system, grant⟩ := a
    obtain ⟨system', grant'⟩ := b
    obtain rfl : system = system' := congrArg DomainPermission.system hplain
    exact congrArg _ hgrant
  postCreate_isSome _ := rfl
  bare_regrantable _ := rfl
  withGrantOption_regrantable _ := rfl
  postCreate_regrantable _ := nofun

/-- Nothing but its own grant option is left out of a permission that wraps none. -/
class Unwrapping (π : Type) [Permission π] : Prop where
  bare_eq_plain : ∀ a : π, Permission.bare a = Permission.plain a
  postCreate_eq_none : ∀ a : π, Permission.postCreateGrantOption a = none

instance : Unwrapping ResourcePermission := ⟨fun _ => rfl, fun _ => rfl⟩

instance : Unwrapping DomainPermission := ⟨fun _ => rfl, fun _ => rfl⟩

/-- Create permissions of a lawful family are lawful: their parts are those of what they wrap. -/
instance {π : Type} [Creatable π] [LawfulPermission π] [Unwrapping π] :
    LawfulPermission (CreatePermission π) where
  plain_eq_iff {a b} := by
    obtain ⟨grant, _⟩ := a
    obtain ⟨grant', _⟩ := b
    simp only [Permission.plain, Permission.bare, Permission.postCreateGrantOption,
      CreatePermission.mk.injEq, and_true]
    cases grant with
    | create => cases grant' <;> simp [CreateGrant.map, CreateGrant.wrapped?]
    | postCreate p =>
      cases grant' with
      | create => simp [CreateGrant.map, CreateGrant.wrapped?]
      | postCreate q =>
        simp only [CreateGrant.map, CreateGrant.wrapped?, CreateGrant.postCreate.injEq,
          Option.map_some, Option.some.injEq]
        constructor
        · rintro rfl
          exact ⟨rfl, rfl⟩
        · rintro ⟨hbare, hgrant⟩
          rw [Unwrapping.bare_eq_plain, Unwrapping.bare_eq_plain] at hbare
          exact LawfulPermission.eq_of_plain_eq hbare hgrant
  eq_of_plain_eq {a b} hplain hgrant := by
    obtain ⟨grant, own⟩ := a
    obtain ⟨grant', own'⟩ := b
    obtain rfl : grant = grant' := congrArg CreatePermission.grant hplain
    exact congrArg _ hgrant
  postCreate_isSome {a b} hbare := by
    obtain ⟨grant, _⟩ := a
    obtain ⟨grant', _⟩ := b
    have hgrant : grant.map Permission.bare = grant'.map Permission.bare :=
      congrArg CreatePermission.grant hbare
    cases grant <;> cases grant'
    · rfl
    · cases hgrant
    · cases hgrant
    · rfl
  bare_regrantable a := by
    obtain ⟨grant, _⟩ := a
    cases grant with
    | create => rfl
    | postCreate p =>
      have hwrapped := LawfulPermission.bare_regrantable p
      exact congrArg (fun q => CreatePermission.mk (.postCreate q) false) hwrapped
  withGrantOption_regrantable _ := rfl
  postCreate_regrantable a := by
    obtain ⟨grant, _⟩ := a
    cases grant with
    | create => nofun
    | postCreate p =>
      intro h
      have hfalse : Permission.withGrantOption (Permission.regrantable p) = false :=
        Option.some.inj h
      rw [LawfulPermission.withGrantOption_regrantable] at hfalse
      cases hfalse

namespace Permission

variable {π : Type} [Permission π] [DecidableEq π] {a b c : π}

theorem sameIdentity_iff : sameIdentity a b = true ↔ bare a = bare b :=
  decide_eq_true_iff

theorem isSatisfiedBy_iff : isSatisfiedBy a b = true ↔
    bare a = bare b ∧ (withGrantOption a = true → withGrantOption b = true) ∧
      ¬(postCreateGrantOption a = some true ∧ postCreateGrantOption b = some false) := by
  have hgrant : (!withGrantOption a || withGrantOption b) = true ↔
      (withGrantOption a = true → withGrantOption b = true) := by
    cases withGrantOption a <;> simp
  simp only [isSatisfiedBy, sameIdentity, postCreateDominated, Bool.and_eq_true, hgrant,
    decide_eq_true_eq, Bool.not_eq_true', decide_eq_false_iff_not, and_assoc]

/-- What may be passed on is what a grant option comes with and what is satisfied. -/
theorem isGrantableFrom_iff : isGrantableFrom a b = true ↔
    withGrantOption b = true ∧ isSatisfiedBy a b = true := by
  rw [isSatisfiedBy_iff]
  simp only [isGrantableFrom, sameIdentity, postCreateDominated, Bool.and_eq_true,
    decide_eq_true_eq, Bool.not_eq_true', decide_eq_false_iff_not, and_assoc]
  constructor
  · exact fun ⟨hgrant, hbare, hpost⟩ => ⟨hgrant, hbare, fun _ => hgrant, hpost⟩
  · exact fun ⟨hgrant, hbare, _, hpost⟩ => ⟨hgrant, hbare, hpost⟩

theorem isSatisfiedBy_refl (a : π) : isSatisfiedBy a a = true :=
  isSatisfiedBy_iff.mpr ⟨rfl, id, fun ⟨htrue, hfalse⟩ => by rw [htrue] at hfalse; cases hfalse⟩

variable [LawfulPermission π]

theorem isSatisfiedBy_trans (hab : isSatisfiedBy a b = true) (hbc : isSatisfiedBy b c = true) :
    isSatisfiedBy a c = true := by
  rw [isSatisfiedBy_iff] at hab hbc ⊢
  obtain ⟨hbare, hgrant, hpost⟩ := hab
  obtain ⟨hbare', hgrant', hpost'⟩ := hbc
  refine ⟨hbare.trans hbare', fun h => hgrant' (hgrant h), fun ⟨ha, hc⟩ => ?_⟩
  -- What the middle one wraps has a grant option, for the outer ones wrap something.
  have hsome := LawfulPermission.postCreate_isSome hbare
  rw [ha] at hsome
  obtain ⟨option, hb⟩ := Option.isSome_iff_exists.mp hsome.symm
  cases option with
  | false => exact hpost ⟨ha, hb⟩
  | true => exact hpost' ⟨hb, hc⟩

/-- What may be passed on from a permission may be passed on from any that satisfies it. -/
theorem isGrantableFrom_trans (hab : isGrantableFrom a b = true)
    (hbc : isSatisfiedBy b c = true) : isGrantableFrom a c = true := by
  rw [isGrantableFrom_iff] at hab ⊢
  exact ⟨(isSatisfiedBy_iff.mp hbc).2.1 hab.1, isSatisfiedBy_trans hab.2 hbc⟩

/-- Of permissions that differ at most in their grant option, one with it satisfies the other. -/
theorem isSatisfiedBy_of_plain_eq (hplain : plain a = plain b)
    (hgrant : withGrantOption a = true → withGrantOption b = true) :
    isSatisfiedBy a b = true := by
  obtain ⟨hbare, hpost⟩ := LawfulPermission.plain_eq_iff.mp hplain
  refine isSatisfiedBy_iff.mpr ⟨hbare, hgrant, fun ⟨ha, hb⟩ => ?_⟩
  rw [hpost, hb] at ha
  cases ha

/-- With every grant option a permission satisfies each of the same identity. -/
theorem isSatisfiedBy_regrantable (h : bare a = bare b) :
    isSatisfiedBy a (regrantable b) = true := by
  rw [isSatisfiedBy_iff, LawfulPermission.bare_regrantable]
  exact ⟨h, fun _ => LawfulPermission.withGrantOption_regrantable b,
    fun hpost => LawfulPermission.postCreate_regrantable b hpost.2⟩

theorem isGrantableFrom_regrantable (h : bare a = bare b) :
    isGrantableFrom a (regrantable b) = true :=
  isGrantableFrom_iff.mpr ⟨LawfulPermission.withGrantOption_regrantable b,
    isSatisfiedBy_regrantable h⟩

/-- Where nothing is wrapped, a request with the grant option is satisfied by just what lets the
request be passed on. -/
theorem isSatisfiedBy_regrantable_eq [Unwrapping π] (a b : π) :
    isSatisfiedBy (regrantable a) b = isGrantableFrom a b := by
  rw [Bool.eq_iff_iff, isGrantableFrom_iff, isSatisfiedBy_iff, isSatisfiedBy_iff]
  simp only [LawfulPermission.bare_regrantable, LawfulPermission.withGrantOption_regrantable,
    Unwrapping.postCreate_eq_none]
  constructor
  · rintro ⟨hbare, hgrant, hpost⟩
    exact ⟨hgrant trivial, hbare, fun _ => hgrant trivial, hpost⟩
  · rintro ⟨hgrant, hbare, _, hpost⟩
    exact ⟨hbare, fun _ => hgrant, hpost⟩

omit [DecidableEq π] in
/-- The identity of a permission and its two grant options leave nothing else to tell it by. -/
theorem eq_of_bare_eq (hbare : bare a = bare b)
    (hpost : postCreateGrantOption a = postCreateGrantOption b)
    (hgrant : withGrantOption a = withGrantOption b) : a = b := by
  have hplain : plain a = plain b := LawfulPermission.plain_eq_iff.mpr ⟨hbare, hpost⟩
  exact LawfulPermission.eq_of_plain_eq hplain hgrant

/-- Wrapped grant options that dominate each other are the same. -/
theorem eq_of_dominated {option option' : Option Bool} (hsome : option.isSome = option'.isSome)
    (h : ¬(option = some true ∧ option' = some false))
    (h' : ¬(option' = some true ∧ option = some false)) : option = option' := by
  cases option with
  | none =>
    cases option' with
    | none => rfl
    | some wrapped => cases hsome
  | some grant =>
    cases option' with
    | none => cases hsome
    | some grant' => cases grant <;> cases grant' <;> simp_all

/-- Permissions that satisfy each other are the same. -/
theorem isSatisfiedBy_antisymm (hab : isSatisfiedBy a b = true)
    (hba : isSatisfiedBy b a = true) : a = b := by
  obtain ⟨hbare, hgrant, hpost⟩ := isSatisfiedBy_iff.mp hab
  obtain ⟨-, hgrant', hpost'⟩ := isSatisfiedBy_iff.mp hba
  have hown : withGrantOption a = withGrantOption b := Bool.eq_iff_iff.mpr ⟨hgrant, hgrant'⟩
  have hwrapped : postCreateGrantOption a = postCreateGrantOption b :=
    eq_of_dominated (LawfulPermission.postCreate_isSome hbare) hpost hpost'
  exact eq_of_bare_eq hbare hwrapped hown

/-- The one permission that satisfies each of an identity has it, with every grant option. -/
theorem eq_regrantable_iff : b = regrantable a ↔
    sameIdentity b a = true ∧ ∀ c, sameIdentity c a = true → isSatisfiedBy c b = true := by
  have hsame : sameIdentity (regrantable a) a = true :=
    sameIdentity_iff.mpr (LawfulPermission.bare_regrantable a)
  have habove : ∀ c, sameIdentity c a = true → isSatisfiedBy c (regrantable a) = true :=
    fun c hc => isSatisfiedBy_regrantable (sameIdentity_iff.mp hc)
  constructor
  · rintro rfl
    exact ⟨hsame, habove⟩
  · rintro ⟨hidentity, hgreatest⟩
    exact isSatisfiedBy_antisymm (habove b hidentity) (hgreatest (regrantable a) hsame)

/-- What the comparisons make of a family of permissions. Being satisfied by another orders the
permissions of each identity, the one with every grant option is the greatest of them, and what may
be passed on grows with what is held and shrinks with what is asked for. -/
structure SatisfactionOrder (π : Type) [Permission π] [DecidableEq π] : Prop where
  refl : ∀ a : π, isSatisfiedBy a a = true
  trans : ∀ {a b c : π}, isSatisfiedBy a b = true → isSatisfiedBy b c = true →
    isSatisfiedBy a c = true
  antisymm : ∀ {a b : π}, isSatisfiedBy a b = true → isSatisfiedBy b a = true → a = b
  identity : ∀ {a b : π}, isSatisfiedBy a b = true → sameIdentity a b = true
  greatest : ∀ a b : π, b = regrantable a ↔
    sameIdentity b a = true ∧ ∀ c, sameIdentity c a = true → isSatisfiedBy c b = true
  grantable_iff : ∀ requested held : π, isGrantableFrom requested held = true ↔
    withGrantOption held = true ∧ isSatisfiedBy requested held = true
  grantable_compose : ∀ {less requested held more : π}, isGrantableFrom requested held = true →
    isSatisfiedBy less requested = true → isSatisfiedBy held more = true →
    isGrantableFrom less more = true

theorem satisfactionOrder_of_lawful : SatisfactionOrder π where
  refl := isSatisfiedBy_refl
  trans := isSatisfiedBy_trans
  antisymm := isSatisfiedBy_antisymm
  identity h := sameIdentity_iff.mpr (isSatisfiedBy_iff.mp h).1
  greatest _ _ := eq_regrantable_iff
  grantable_iff _ _ := isGrantableFrom_iff
  grantable_compose {less requested held more} hgrantable hless hmore := by
    obtain ⟨hoption, hsatisfied⟩ := isGrantableFrom_iff.mp hgrantable
    have hheld : isSatisfiedBy less held = true := isSatisfiedBy_trans hless hsatisfied
    exact isGrantableFrom_trans (isGrantableFrom_iff.mpr ⟨hoption, hheld⟩) hmore

/-- Satisfaction is a partial order in each of the four families, and passing permissions on goes
along with it. -/
theorem satisfaction_orders_permissions :
    SatisfactionOrder ResourcePermission ∧ SatisfactionOrder ResourceCreatePermission ∧
      SatisfactionOrder DomainPermission ∧ SatisfactionOrder DomainCreatePermission :=
  ⟨satisfactionOrder_of_lawful, satisfactionOrder_of_lawful, satisfactionOrder_of_lawful,
    satisfactionOrder_of_lawful⟩

end Permission

end Authorization
