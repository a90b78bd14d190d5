import Authorization.Command.Parse
import Authorization.Proofs.Permission.Spelling
import Authorization.Proofs.Store.Decode
import Authorization.Proofs.Text.Numeral

/-! Command lines that are written for values. Only a plain permission whose name ends like the
marker for the grant option is not read back. -/
namespace Authorization

theorem ResourceId.ofText_toString (id : ResourceId) : ofText (toString id) = .ok id := by
  have hwritten : toString id = toString id.value.toInt := rfl
  rw [ofText, hwritten, Text.trim_toString, Text.readInt64_toString]

namespace ResourcePermission

/-- A plain custom permission with a name that ends like the marker for the grant option. -/
def EndsInMarker (permission : ResourcePermission) : Prop :=
  ∃ (name : CustomName) (front : String),
    name.text = front ++ "/G" ∧ permission = ⟨.custom name, false⟩

variable {permission : ResourcePermission}

/-- What stands in front of a marker is the name, without the blanks between them. -/
theorem ofText_append_marker (front : String) :
    ofText (front ++ "/G") = ofName (Text.trimEnd front) true := by
  have hchars : (front ++ "/G").toList = front.toList ++ grantMarker := String.toList_append
  have hsuffix : grantMarker.isSuffixOf (front.toList ++ grantMarker) = true :=
    List.isSuffixOf_iff_suffix.mpr (List.suffix_append _ _)
  have hmarker : withoutGrantMarker? (front ++ "/G") = some front := by
    rw [withoutGrantMarker?, hchars, if_pos hsuffix, List.length_append, Nat.add_sub_cancel,
      List.take_left, String.ofList_toList]
  rw [ofText, hmarker]

theorem ofText_eq_ofName {text : String} (h : ∀ front, text ≠ front ++ "/G") :
    ofText text = ofName text false := by
  have hsuffix : ¬grantMarker.isSuffixOf text.toList = true := by
    rw [List.isSuffixOf_iff_suffix]
    rintro ⟨front, hfront⟩
    refine h (String.ofList front) ?_
    rw [← String.toList_inj, String.toList_append, String.toList_ofList, ← hfront]
    rfl
  rw [ofText, withoutGrantMarker?, if_neg hsuffix]

/-- A permission is read back from how it is written, unless it is plain and its name ends in a
marker. -/
theorem ofText_toString_iff :
    ofText (toString permission) = .ok permission ↔ ¬permission.EndsInMarker := by
  constructor
  · rintro hread ⟨name, front, htext, rfl⟩
    -- The end of the name is taken for a marker, so what is read has the grant option.
    have hwritten : toString (⟨.custom name, false⟩ : ResourcePermission) = front ++ "/G" :=
      (String.append_empty ..).trans htext
    rw [hwritten, ofText_append_marker, ofName_eq_ok_iff] at hread
    cases hread.2
  · intro hplain
    obtain ⟨name, grant⟩ := permission
    have hname := ofName_text ⟨name, grant⟩
    cases grant with
    | true =>
      have hwritten : toString (⟨name, true⟩ : ResourcePermission) = name.text ++ " " ++ "/G" :=
        append_space_marker name.text
      have htrimmed : Text.trimEnd name.text = name.text := by
        rw [← name.trim_text, Text.trimEnd_trim]
      calc
        ofText (toString (⟨name, true⟩ : ResourcePermission))
        _ = ofName (Text.trimEnd (name.text ++ " ")) true := by rw [hwritten, ofText_append_marker]
        _ = ofName name.text true := by rw [Text.trimEnd_append_space, htrimmed]
        _ = .ok ⟨name, true⟩ := hname
    | false =>
      have hwritten : toString (⟨name, false⟩ : ResourcePermission) = name.text :=
        String.append_empty ..
      have hend : ∀ front, name.text ≠ front ++ "/G" := by
        intro front hfront
        cases name with
        | system system => exact system.name_ne_append front hfront
        | custom custom => exact hplain ⟨custom, front, hfront, rfl⟩
      rw [hwritten, ofText_eq_ofName hend, hname]

end ResourcePermission

namespace Scan

variable {form : CommandForm} {begun : Nat} {read next : String → Except Error Argument}
  {words : List String} {arguments : List Argument}

/-- Words are read if each of them spells a value, and as these values. -/
theorem readAll_eq_ok_iff {π : Type} {ofText : String → Except Error π} {argument : π → Argument}
    (hread : ∀ word, read word = (ofText word).map argument) : readAll read words = .ok arguments ↔
      ∃ values, List.Forall₂ (fun word value => ofText word = .ok value) words values ∧
        arguments = values.map argument := by
  induction words generalizing arguments with
  | nil =>
    constructor
    · intro h
      cases h
      exact ⟨[], .nil, rfl⟩
    · rintro ⟨values, hvalues, rfl⟩
      cases hvalues
      rfl
  | cons word words ih =>
    rw [readAll, hread]
    cases htext : ofText word with
    | error cause =>
      refine iff_of_false nofun ?_
      rintro ⟨values, hvalues, _⟩
      cases hvalues with
      | cons hword _ => cases htext.symm.trans hword
    | ok first =>
      constructor
      · intro h
        obtain ⟨found, hfound, hcons⟩ := bind_eq_ok_iff.mp h
        obtain ⟨others, hothers, rfl⟩ := ih.mp hfound
        cases hcons
        exact ⟨first :: others, .cons htext hothers, rfl⟩
      · rintro ⟨values, hvalues, rfl⟩
        cases hvalues with
        | cons hword hothers =>
          cases htext.symm.trans hword
          exact bind_eq_ok (ih.mpr ⟨_, hothers, rfl⟩) rfl

theorem readAll_readResource_iff {word : String} :
    readAll Argument.readResource [word] = .ok arguments ↔
      ∃ id, ResourceId.ofText word = .ok id ∧ arguments = [.resource id] := by
  have hread (word : String) :
      Argument.readResource word = (ResourceId.ofText word).map .resource := rfl
  rw [readAll_eq_ok_iff hread]
  constructor
  · rintro ⟨ids, hids, rfl⟩
    cases hids with
    | cons hid hnone =>
      cases hnone
      exact ⟨_, hid, rfl⟩
  · rintro ⟨id, hid, rfl⟩
    exact ⟨[id], .cons hid .nil, rfl⟩

theorem readAll_readPermission_iff : readAll Argument.readPermission words = .ok arguments ↔
    ∃ permissions,
      List.Forall₂ (fun word permission => ResourcePermission.ofText word = .ok permission) words
        permissions ∧ arguments = permissions.map .permission :=
  readAll_eq_ok_iff fun _ => rfl

/-- A scan behind a double dash, with the words so far for the place that was begun last. -/
def placing (form : CommandForm) (begun : Nat) (read : String → Except Error Argument)
    (taken : List String) (arguments : List Argument) : Scan :=
  { form, begun, pending := .place read taken, arguments, trailing := true }

theorem step_of_trailing {scan : Scan} (h : scan.trailing = true) (word : String) :
    scan.step word = scan.take word :=
  if_pos h

/-- The first word behind a double dash begins the first place. -/
theorem run_dashes (hplace : form.places[0]? = some read) (word : String) (words : List String) :
    run { form } ("--" :: word :: words) = run (placing form 1 read [word] []) words := by
  have hshape : shape "--" = .dashes := rfl
  have hdashes : step { form } "--" = .ok { form, trailing := true } := by
    rw [step, hshape]
    rfl
  have hword : step { form, trailing := true } word = .ok (placing form 1 read [word] []) := by
    rw [step_of_trailing rfl, take, hplace]
    rfl
  rw [run, bind_of_eq_ok hdashes, run, bind_of_eq_ok hword]

/-- A word for which there is a place begins it, once the words of the one before are read. -/
theorem run_placing_next (hplace : form.places[begun]? = some next) (taken : List String)
    (word : String) (words : List String) :
    run (placing form begun read taken arguments) (word :: words) = (do
      let found ← readAll read taken
      run (placing form (begun + 1) next [word] (arguments ++ found)) words) := by
  have htake : step (placing form begun read taken arguments) word = (do
      let found ← readAll read taken
      return placing form (begun + 1) next [word] (arguments ++ found)) := by
    rw [step_of_trailing rfl, take, placing, hplace]
    exact bind_assoc ..
  rw [run, htake, bind_assoc]
  rfl

/-- Once the last place is begun it takes all the words that are left. -/
theorem run_placing_last (hrepeats : form.repeatsLast = true) (hbegun : begun = form.places.length)
    (taken words : List String) :
    run (placing form begun read taken arguments) words = (do
      let found ← readAll read (taken ++ words)
      return { form, begun, arguments := arguments ++ found, trailing := true }) := by
  induction words generalizing taken with
  | nil =>
    rw [List.append_nil]
    rfl
  | cons word words ih =>
    have hplace : form.places[begun]? = none := List.getElem?_eq_none (Nat.le_of_eq hbegun.symm)
    have hlast : continuesLast (placing form begun read taken arguments) = true := by
      rw [continuesLast, placing, hrepeats, hbegun, beq_self_eq_true]
      rfl
    have htake : step (placing form begun read taken arguments) word =
        .ok (placing form begun read (taken ++ [word]) arguments) := by
      rw [step_of_trailing rfl, take, placing, hplace]
      exact if_pos hlast
    rw [run, bind_of_eq_ok htake, ih, List.append_assoc]
    rfl

end Scan

namespace Command

theorem parse_checkResource (first second word : String) (words : List String) :
    parse ("check-resource" :: "--" :: first :: second :: word :: words) = (do
      let accessor ← Scan.readAll Argument.readResource [first]
      let accessed ← Scan.readAll Argument.readResource [second]
      let requested ← Scan.readAll Argument.readPermission (word :: words)
      ofParts .checkResource (accessor ++ accessed ++ requested) []) := by
  have hname : Name.ofWord? "check-resource" = some .checkResource := by decide
  have hbegun : 1 + 1 + 1 = Name.checkResource.form.places.length := rfl
  rw [parse, hname]
  dsimp only
  -- Each word for a resource is read when the next place is begun, the others when the line ends.
  rw [parseArguments, Scan.run_dashes rfl, Scan.run_placing_next rfl, bind_assoc]
  refine bind_congr fun accessor => ?_
  rw [Scan.run_placing_next rfl, bind_assoc]
  refine bind_congr fun accessed => ?_
  rw [Scan.run_placing_last rfl hbegun, bind_assoc]
  rfl

theorem ofParts_checkResource (accessor accessed : ResourceId)
    {requested : List ResourcePermission} (h : requested ≠ []) (options : List (String × String)) :
    ofParts .checkResource (.resource accessor :: .resource accessed :: requested.map .permission)
      options = .ok (checkResource accessor accessed requested) := by
  obtain ⟨first, others, rfl⟩ := List.exists_cons_of_ne_nil h
  have hfound : ((first :: others).map Argument.permission).filterMap Argument.permission? =
      first :: others := by
    rw [List.filterMap_map]
    exact List.filterMap_some
  exact congrArg (fun found => Except.ok (checkResource accessor accessed found)) hfound

/-- A line for a check is read word by word: two resources, then the permissions. -/
theorem parse_checkResource_eq_ok_iff {first second : String} {words : List String}
    (hwords : words ≠ []) {command : Command} :
    parse ("check-resource" :: "--" :: first :: second :: words) = .ok command ↔
      ∃ accessor accessed requested, ResourceId.ofText first = .ok accessor ∧
        ResourceId.ofText second = .ok accessed ∧
        List.Forall₂ (fun word permission => ResourcePermission.ofText word = .ok permission)
          words requested ∧
        command = checkResource accessor accessed requested := by
  obtain ⟨word, others, rfl⟩ := List.exists_cons_of_ne_nil hwords
  rw [parse_checkResource]
  constructor
  · intro h
    obtain ⟨_, hfirst, h⟩ := bind_eq_ok_iff.mp h
    obtain ⟨_, hsecond, h⟩ := bind_eq_ok_iff.mp h
    obtain ⟨_, hothers, h⟩ := bind_eq_ok_iff.mp h
    obtain ⟨accessor, haccessor, rfl⟩ := Scan.readAll_readResource_iff.mp hfirst
    obtain ⟨accessed, haccessed, rfl⟩ := Scan.readAll_readResource_iff.mp hsecond
    obtain ⟨requested, hread, rfl⟩ := Scan.readAll_readPermission_iff.mp hothers
    have hrequested : requested ≠ [] := by
      rintro rfl
      cases hread
    have hparts := ofParts_checkResource accessor accessed hrequested []
    exact ⟨accessor, accessed, requested, haccessor, haccessed, hread,
      Except.ok.inj (h.symm.trans hparts)⟩
  · rintro ⟨accessor, accessed, requested, haccessor, haccessed, hread, rfl⟩
    have hfirst := Scan.readAll_readResource_iff.mpr ⟨accessor, haccessor, rfl⟩
    have hsecond := Scan.readAll_readResource_iff.mpr ⟨accessed, haccessed, rfl⟩
    have hothers := Scan.readAll_readPermission_iff.mpr ⟨requested, hread, rfl⟩
    have hrequested : requested ≠ [] := by
      rintro rfl
      cases hread
    have hparts := ofParts_checkResource accessor accessed hrequested []
    exact bind_eq_ok hfirst (bind_eq_ok hsecond (bind_eq_ok hothers hparts))

/-- A line that is written for a check is read as that check, unless a permission of it is plain and
has a name that ends in a marker; such a permission is never read back. -/
theorem check_read_back :
    (∀ (accessor accessed : ResourceId) (permissions : List ResourcePermission),
      permissions ≠ [] →
        (parse ("check-resource" :: "--" :: toString accessor :: toString accessed ::
            permissions.map toString) = .ok (checkResource accessor accessed permissions) ↔
          ∀ permission ∈ permissions, ¬permission.EndsInMarker)) ∧
      ∀ permission : ResourcePermission, permission.EndsInMarker →
        ResourcePermission.ofText (toString permission) ≠ .ok permission := by
  constructor
  · intro accessor accessed permissions hpermissions
    have hwords : permissions.map toString ≠ [] := by
      rwa [ne_eq, List.map_eq_nil_iff]
    rw [parse_checkResource_eq_ok_iff hwords]
    constructor
    · rintro ⟨_, _, _, _, _, hread, hcommand⟩
      cases hcommand
      rw [List.forall₂_map_left_iff, List.forall₂_same] at hread
      intro permission hmem
      exact ResourcePermission.ofText_toString_iff.mp (hread permission hmem)
    · intro hplain
      refine ⟨accessor, accessed, permissions, accessor.ofText_toString, accessed.ofText_toString,
        ?_, rfl⟩
      rw [List.forall₂_map_left_iff, List.forall₂_same]
      intro permission hmem
      exact ResourcePermission.ofText_toString_iff.mpr (hplain permission hmem)
  · intro permission hends hread
    exact ResourcePermission.ofText_toString_iff.mp hread hends

/-- A name that ends in a marker, as that of a plain permission and of one with the grant option. -/
def shareName : CustomName :=
  ⟨⟨"share/G", by decide +kernel, by decide⟩, by decide⟩

/-- The least handle and the two permissions that are written with a marker are read back. -/
theorem least_handle_read_back :
    parse ["check-resource", "--", "-9223372036854775808", "7", "*QUERY /G", "share/G /G"] =
        .ok (checkResource ⟨Int64.minValue⟩ ⟨7⟩
          [⟨.system .query, true⟩, ⟨.custom shareName, true⟩]) ∧
      parse ["check-resource", "--", "-9223372036854775808", "7", "share/G"] ≠
        .ok (checkResource ⟨Int64.minValue⟩ ⟨7⟩ [⟨.custom shareName, false⟩]) := by
  have hleast : toString (⟨Int64.minValue⟩ : ResourceId) = "-9223372036854775808" := by
    decide +kernel
  have hseven : toString (⟨7⟩ : ResourceId) = "7" := by decide +kernel
  have hgranted : List.map (toString : ResourcePermission → String)
      [⟨.system .query, true⟩, ⟨.custom shareName, true⟩] = ["*QUERY /G", "share/G /G"] := by
    decide +kernel
  have hplain : List.map (toString : ResourcePermission → String) [⟨.custom shareName, false⟩] =
      ["share/G"] := by
    decide +kernel
  rw [← hleast, ← hseven, ← hgranted, ← hplain]
  constructor
  · refine (check_read_back.1 _ _ _ (List.cons_ne_nil _ _)).mpr ?_
    rintro permission hmem ⟨name, front, -, rfl⟩
    simp at hmem
  · intro hread
    have hall := (check_read_back.1 _ _ _ (List.cons_ne_nil _ _)).mp hread
    exact hall _ List.mem_cons_self ⟨shareName, "share", rfl, rfl⟩

end Command

end Authorization
