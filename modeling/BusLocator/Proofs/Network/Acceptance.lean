import BusLocator.Proofs.Network.RoundTrip
/-!
# What is accepted as nodes

A text is refused at one of three points: it is no JSON, it has another outer shape, or one of the
elements is no node. What each stage accepts is said here by the JSON value alone, and no element
is ever passed over (`Except.mapM_eq_ok_iff`), so a text is taken as a whole or not at all.
-/

namespace BusLocator.NetworkNode

open Json (Ascending Fields Regular)

/-- The two outer shapes: an array, or an object with an array under one key. Whatever else is in
the object does not count. -/
inductive Lists : Json → List Json → Prop
  | array (items : List Json) : Lists (.array items) items
  | member {fields : Fields} {items : List Json}
      (h : Json.field? "NetworkNodes" fields = some (.array items)) : Lists (.object fields) items

/-- The node that an object describes. The members of the object are the name and the settings, each
with its value and each once. -/
inductive Describes : Json → NetworkNode → Prop
  | object {fields : Fields} {node : NetworkNode} (horder : Ascending node.settings)
      (hmembers : fields.Perm (("Name", .string node.name) :: node.settings)) :
      Describes (.object fields) node

def IsNamed (item : Json) : Prop :=
  ∃ fields name, item = .object fields ∧ Json.field? "Name" fields = some (.string name)

/-- What is said about an element that is no node. -/
inductive Refuses : Json → Json.Mismatch → Prop
  | noObject {item : Json} (h : ∀ fields, item ≠ .object fields) :
      Refuses item (.wrongShape item.shape "struct NetworkNode")
  | noName {fields : Fields} (h : Json.field? "Name" fields = none) :
      Refuses (.object fields) (.missingField "Name")
  | noString {fields : Fields} {value : Json} (h : Json.field? "Name" fields = some value)
      (hvalue : ∀ name, value ≠ .string name) :
      Refuses (.object fields) (.wrongShape value.shape "a string")

variable {text : String} {json item : Json} {items : List Json} {fields : Fields}
  {node : NetworkNode} {nodes : List NetworkNode} {mismatch : Json.Mismatch}
  {cause : Json.Error} {allowed : Json.Number → Prop} {depth : Nat}

/-! ### The outer shape -/

theorem elements?_eq_some_iff : elements? json = some items ↔ Lists json items := by
  constructor
  · intro h
    unfold elements? at h
    split at h
    · cases h
      exact .array items
    · split at h
      · rename_i hlist
        cases h
        exact .member hlist
      · cases h
    · cases h
  · rintro (_ | hlist)
    · rfl
    · change Json.field? listKey _ = _ at hlist
      rw [elements?, hlist]

theorem elements?_eq_none_iff : elements? json = none ↔ ∀ items, ¬ Lists json items := by
  simp only [← elements?_eq_some_iff, Option.eq_none_iff_forall_ne_some]

/-! ### One element -/

theorem ofJson_object_eq_ok_iff : ofJson (.object fields) = .ok node ↔
    Json.field? nameKey fields = some (.string node.name) ∧
      fields.filter (·.1 ≠ nameKey) = node.settings := by
  rw [ofJson]
  constructor
  · intro h
    split at h <;> cases h
    rename_i hname
    exact ⟨hname, rfl⟩
  · rintro ⟨hname, hsettings⟩
    rw [hname, hsettings]

/-- Nothing is lost of an object in order, and nothing comes in. -/
theorem ofJson_eq_ok_iff (h : Regular allowed depth item) :
    ofJson item = .ok node ↔ Describes item node := by
  constructor
  · intro hread
    cases h with
    | object horder _ =>
        obtain ⟨hname, hsettings⟩ := ofJson_object_eq_ok_iff.1 hread
        have hmem := (Json.lookup_eq_some_iff_mem horder).1 hname
        have hperm := Json.perm_cons_filter horder hmem
        rw [hsettings] at hperm
        exact .object (hsettings ▸ horder.filter _) hperm
    | _ => cases hread
  · rintro ⟨hsettings, hmembers⟩
    cases h with
    | object horder _ =>
        have hmem := hmembers.mem_iff.2 List.mem_cons_self
        exact ofJson_object_eq_ok_iff.2 ⟨(Json.lookup_eq_some_iff_mem horder).2 hmem,
          Json.filter_of_perm_cons horder hsettings hmembers⟩

theorem isNamed_iff : IsNamed item ↔ ∃ node, ofJson item = .ok node := by
  constructor
  · rintro ⟨fields, name, rfl, hname⟩
    exact ⟨⟨name, _⟩, ofJson_object_eq_ok_iff.2 ⟨hname, rfl⟩⟩
  · rintro ⟨node, hread⟩
    cases item with
    | object fields => exact ⟨fields, node.name, rfl, (ofJson_object_eq_ok_iff.1 hread).1⟩
    | _ => cases hread

theorem ofJson_eq_error_iff : ofJson item = .error mismatch ↔ Refuses item mismatch := by
  constructor
  · intro h
    unfold ofJson at h
    split at h
    · split at h
      · cases h
      · rename_i hvalue
        cases h
        exact .noString hvalue (by assumption)
      · rename_i hname
        cases h
        exact .noName hname
    · cases h
      exact .noObject (by assumption)
  · rintro (hobject | hname | ⟨hvalue, hstring⟩)
    · cases item with
      | object fields => exact absurd rfl (hobject fields)
      | _ => rfl
    · change Json.field? nameKey _ = _ at hname
      rw [ofJson, hname]
      rfl
    · change Json.field? nameKey _ = _ at hvalue
      rw [ofJson, hvalue]
      rename_i value
      cases value with
      | string name => exact absurd rfl (hstring name)
      | _ => rfl

/-! ### All elements -/

theorem mapM_ofJson_eq_ok_iff (h : ∀ item ∈ items, Regular allowed depth item) :
    items.mapM ofJson = .ok nodes ↔ List.Forall₂ Describes items nodes := by
  rw [Except.mapM_eq_ok_iff]
  constructor
  · intro hread
    have hall := (List.forall₂_and_left items nodes).2 ⟨h, hread⟩
    exact hall.imp fun _ _ hitem => (ofJson_eq_ok_iff hitem.1).1 hitem.2
  · intro hread
    have hall := (List.forall₂_and_left items nodes).2 ⟨h, hread⟩
    exact hall.imp fun _ _ hitem => (ofJson_eq_ok_iff hitem.1).2 hitem.2

theorem exists_mapM_ofJson_iff :
    (∃ nodes, items.mapM ofJson = .ok nodes) ↔ ∀ item ∈ items, IsNamed item := by
  simp only [isNamed_iff, Except.exists_mapM_eq_ok_iff]

theorem mapM_ofJson_eq_error_iff :
    items.mapM ofJson = .error mismatch ↔ ∃ before item after, items = before ++ item :: after ∧
      (∀ other ∈ before, IsNamed other) ∧ Refuses item mismatch := by
  simp only [isNamed_iff, ← ofJson_eq_error_iff, Except.mapM_eq_error_iff]

/-! ### Texts -/

theorem parseAll_of_parse_eq_error (h : Json.parse text = .error cause) :
    parseAll text = .error (.invalid cause) := by
  rw [parseAll, h]
  rfl

theorem parseAll_of_elements?_eq_none (hjson : Json.parse text = .ok json)
    (h : elements? json = none) : parseAll text = .error .wrongOuterShape := by
  rw [parseAll, hjson]
  simp only [Except.mapError, bind, Except.bind, h]

theorem parseAll_of_elements? (hjson : Json.parse text = .ok json)
    (h : elements? json = some items) :
    parseAll text = (items.mapM ofJson).mapError fun mismatch => .invalid mismatch.error := by
  rw [parseAll, hjson]
  simp only [Except.mapError, bind, Except.bind, h]

theorem parseAll_eq_ok_iff_describes : parseAll text = .ok nodes ↔
    ∃ json items, Json.parse text = .ok json ∧ Lists json items ∧
      List.Forall₂ Describes items nodes := by
  rw [parseAll_eq_ok_iff]
  simp only [elements?_eq_some_iff]
  refine exists₂_congr fun json items =>
    and_congr_right fun hjson => and_congr_right fun hlists => ?_
  apply mapM_ofJson_eq_ok_iff
  intro item hitem
  have hregular : Regular (fun _ => True) 127 json :=
    Json.regular_of_parse (fun _ _ _ _ => trivial) hjson
  exact regular_of_mem_elements hregular (elements?_eq_some_iff.2 hlists) hitem

theorem exists_parseAll_iff : (∃ nodes, parseAll text = .ok nodes) ↔
    ∃ json items, Json.parse text = .ok json ∧ Lists json items ∧
      ∀ item ∈ items, IsNamed item := by
  simp only [parseAll_eq_ok_iff, elements?_eq_some_iff, ← exists_mapM_ofJson_iff]
  constructor
  · rintro ⟨nodes, json, items, hjson, hlists, hread⟩
    exact ⟨json, items, hjson, hlists, nodes, hread⟩
  · rintro ⟨json, items, hjson, hlists, nodes, hread⟩
    exact ⟨nodes, json, items, hjson, hlists, hread⟩

theorem parseAll_eq_wrongOuterShape_iff : parseAll text = .error .wrongOuterShape ↔
    ∃ json, Json.parse text = .ok json ∧ ∀ items, ¬ Lists json items := by
  simp only [← elements?_eq_none_iff]
  constructor
  · intro h
    cases hjson : Json.parse text with
    | error cause =>
        rw [parseAll_of_parse_eq_error hjson] at h
        cases h
    | ok json =>
        refine ⟨json, rfl, ?_⟩
        cases helements : elements? json with
        | none => rfl
        | some items =>
            rw [parseAll_of_elements? hjson helements, Except.mapError_eq_error_iff] at h
            obtain ⟨mismatch, -, heq⟩ := h
            cases heq
  · rintro ⟨json, hjson, hshape⟩
    exact parseAll_of_elements?_eq_none hjson hshape

theorem parseAll_eq_invalid_iff : parseAll text = .error (.invalid cause) ↔
    Json.parse text = .error cause ∨ ∃ json before item after mismatch,
      Json.parse text = .ok json ∧ Lists json (before ++ item :: after) ∧
      (∀ other ∈ before, IsNamed other) ∧ Refuses item mismatch ∧ mismatch.error = cause := by
  constructor
  · intro h
    cases hjson : Json.parse text with
    | error found =>
        rw [parseAll_of_parse_eq_error hjson] at h
        cases h
        exact .inl rfl
    | ok json =>
        cases helements : elements? json with
        | none =>
            rw [parseAll_of_elements?_eq_none hjson helements] at h
            cases h
        | some items =>
            rw [parseAll_of_elements? hjson helements, Except.mapError_eq_error_iff] at h
            obtain ⟨mismatch, hread, heq⟩ := h
            obtain ⟨before, item, after, rfl, hbefore, hitem⟩ := mapM_ofJson_eq_error_iff.1 hread
            exact .inr ⟨json, before, item, after, mismatch, rfl,
              elements?_eq_some_iff.1 helements, hbefore, hitem, NetworkError.invalid.inj heq⟩
  · rintro (hjson | ⟨json, before, item, after, mismatch, hjson, hlists, hbefore, hitem, rfl⟩)
    · exact parseAll_of_parse_eq_error hjson
    · rw [parseAll_of_elements? hjson (elements?_eq_some_iff.2 hlists),
        mapM_ofJson_eq_error_iff.2 ⟨before, item, after, rfl, hbefore, hitem⟩]
      rfl

theorem exists_parseAll_eq_invalid_iff : (∃ cause, parseAll text = .error (.invalid cause)) ↔
    (∀ json, Json.parse text ≠ .ok json) ∨ ∃ json items, Json.parse text = .ok json ∧
      Lists json items ∧ ∃ item ∈ items, ¬ IsNamed item := by
  constructor
  · rintro ⟨cause, h⟩
    rcases parseAll_eq_invalid_iff.1 h with
      hjson | ⟨json, before, item, after, mismatch, hjson, hlists, -, hitem, -⟩
    · exact .inl fun json hok => by cases hjson.symm.trans hok
    · refine .inr ⟨json, _, hjson, hlists, item, by simp, ?_⟩
      rw [isNamed_iff]
      rintro ⟨node, hread⟩
      cases hread.symm.trans (ofJson_eq_error_iff.2 hitem)
  · rintro (hjson | ⟨json, items, hjson, hlists, item, hitem, hnot⟩)
    · cases hread : Json.parse text with
      | error cause => exact ⟨cause, parseAll_of_parse_eq_error hread⟩
      | ok json => exact absurd hread (hjson json)
    · rw [parseAll_of_elements? hjson (elements?_eq_some_iff.2 hlists)]
      cases hread : items.mapM ofJson with
      | ok nodes => exact absurd (exists_mapM_ofJson_iff.1 ⟨nodes, hread⟩ item hitem) hnot
      | error mismatch => exact ⟨mismatch.error, rfl⟩

/-- A text spells nodes exactly if it is JSON of one of two shapes, in which every element is an
object with a string as its name. Then there are as many nodes in the same order, each with the name
and the other members of its element. JSON of any other shape is refused as such, and what remains
is refused for the text or for the first element that is no node. -/
theorem parseAll_takes_all_or_nothing (text : String) :
    ((∃ nodes, parseAll text = .ok nodes) ↔ ∃ json items, Json.parse text = .ok json ∧
        Lists json items ∧ ∀ item ∈ items, IsNamed item) ∧
      (∀ nodes, parseAll text = .ok nodes ↔ ∃ json items, Json.parse text = .ok json ∧
        Lists json items ∧ List.Forall₂ Describes items nodes) ∧
      (parseAll text = .error .wrongOuterShape ↔
        ∃ json, Json.parse text = .ok json ∧ ∀ items, ¬ Lists json items) ∧
      ((∃ cause, parseAll text = .error (.invalid cause)) ↔
        (∀ json, Json.parse text ≠ .ok json) ∨ ∃ json items, Json.parse text = .ok json ∧
          Lists json items ∧ ∃ item ∈ items, ¬ IsNamed item) ∧
      ∀ cause, parseAll text = .error (.invalid cause) ↔
        Json.parse text = .error cause ∨ ∃ json before item after mismatch,
          Json.parse text = .ok json ∧ Lists json (before ++ item :: after) ∧
          (∀ other ∈ before, IsNamed other) ∧ Refuses item mismatch ∧ mismatch.error = cause :=
  ⟨exists_parseAll_iff, fun _ => parseAll_eq_ok_iff_describes, parseAll_eq_wrongOuterShape_iff,
    exists_parseAll_eq_invalid_iff, fun _ => parseAll_eq_invalid_iff⟩

end BusLocator.NetworkNode
