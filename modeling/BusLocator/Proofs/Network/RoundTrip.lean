import BusLocator.Network
import BusLocator.Proofs.Json.Shape
/-!
# Nodes that are written and read

A node is written as one object with its name in front, and read from an object that is gathered in
order, where the name is looked up and taken out again. As no setting has the key of the name,
nothing is captured on the way (`ofJson_gathered`), and a setting with that key cannot come out of a
text either (`isRegular_of_parseAll`).
-/

namespace BusLocator.NetworkNode

open Json (Ascending Fields Regular Spells gather)

/-- A node as it is kept: no setting has the key of the name, the settings are in order and nested
at most `depth` deep, and all numbers are such as `allowed`. -/
structure IsRegular (allowed : Json.Number → Prop) (depth : Nat) (node : NetworkNode) : Prop where
  ascending : Ascending node.settings
  key_ne : ∀ setting ∈ node.settings, setting.1 ≠ nameKey
  regular : ∀ setting ∈ node.settings, Regular allowed depth setting.2

def fields (node : NetworkNode) : Fields :=
  (nameKey, .string node.name) :: node.settings

def gathered (node : NetworkNode) : Json :=
  .object (gather [] node.fields)

variable {allowed : Json.Number → Prop} {depth : Nat} {node : NetworkNode}
  {nodes : List NetworkNode}

/-! ### One node -/

theorem IsRegular.regular_of_mem_fields (h : node.IsRegular allowed depth) {field : String × Json}
    (hfield : field ∈ node.fields) : Regular allowed depth field.2 := by
  rcases List.mem_cons.1 hfield with rfl | hsetting
  · exact .string node.name
  · exact h.regular field hsetting

theorem IsRegular.mono {deeper : Nat} (h : node.IsRegular allowed depth) (hle : depth ≤ deeper) :
    node.IsRegular allowed deeper where
  ascending := h.ascending
  key_ne := h.key_ne
  regular setting hsetting := (h.regular setting hsetting).mono hle

theorem ofJson_gathered (h : node.IsRegular allowed depth) : ofJson node.gathered = .ok node := by
  have hname : Json.field? nameKey (gather [] node.fields) = some (.string node.name) :=
    Json.lookup_gather_of_last [] [] node.settings h.key_ne
  have hsettings : (gather [] node.fields).filter (·.1 ≠ nameKey) = node.settings := by
    have hkept : node.fields.filter (·.1 ≠ nameKey) = node.settings := by
      rw [fields, List.filter_cons_of_neg (by simp)]
      exact List.filter_eq_self.2 fun setting hsetting => by simpa using h.key_ne setting hsetting
    rw [Json.filter_gather nameKey List.Pairwise.nil, hkept]
    exact Json.gather_of_ascending h.ascending
  rw [gathered, ofJson, hname, hsettings]

theorem isRegular_of_ofJson {json : Json} (hjson : Regular allowed (depth + 1) json)
    (h : ofJson json = .ok node) : node.IsRegular allowed depth := by
  cases hjson with
  | object horder hvalues =>
      rw [ofJson] at h
      split at h
      · cases h
        refine ⟨horder.filter _, ?_, ?_⟩
        · intro setting hsetting
          simpa using (List.mem_filter.1 hsetting).2
        · intro setting hsetting
          exact hvalues setting (List.mem_filter.1 hsetting).1
      · cases h
      · cases h
  | _ => cases h

/-! ### Several nodes -/

theorem mapM_ofJson_gathered (h : ∀ node ∈ nodes, node.IsRegular allowed depth) :
    (nodes.map gathered).mapM ofJson = .ok nodes := by
  induction nodes with
  | nil => rfl
  | cons node nodes ih =>
      rw [List.map_cons, List.mapM_cons, ofJson_gathered (h node List.mem_cons_self),
        ih fun other hother => h other (List.mem_cons_of_mem node hother)]
      rfl

theorem exists_of_mem_mapM {items : List Json} (h : items.mapM ofJson = .ok nodes)
    (hnode : node ∈ nodes) : ∃ item ∈ items, ofJson item = .ok node := by
  have hread : List.Forall₂ (fun item node => ofJson item = .ok node) items nodes :=
    Except.mapM_eq_ok_iff.1 h
  clear h
  induction hread with
  | nil => exact absurd hnode List.not_mem_nil
  | @cons item _ items _ hfirst _ ih =>
      rcases List.mem_cons.1 hnode with rfl | hnode
      · exact ⟨item, List.mem_cons_self, hfirst⟩
      · obtain ⟨other, hother, hread⟩ := ih hnode
        exact ⟨other, List.mem_cons_of_mem item hother, hread⟩

theorem parseAll_eq_ok_iff {s : String} :
    parseAll s = .ok nodes ↔
      ∃ json items, Json.parse s = .ok json ∧ elements? json = some items ∧
        items.mapM ofJson = .ok nodes := by
  rw [parseAll]
  cases Json.parse s with
  | error cause => simp [Except.mapError, bind, Except.bind]
  | ok json =>
      simp only [Except.mapError, bind, Except.bind, Except.ok.injEq, exists_and_left,
        exists_eq_left']
      cases elements? json with
      | none => simp
      | some items =>
          simp only [Option.some.injEq, exists_eq_left']
          cases items.mapM ofJson <;> simp

theorem spells_writeCompact (h : ∀ node ∈ nodes, node.IsRegular Json.Number.IsWhole depth) :
    Spells (depth + 2) (toJsonAll nodes).writeCompact (.array (nodes.map gathered)) := by
  have hnode : ∀ node ∈ nodes, Spells (depth + 1) node.toJson.writeCompact node.gathered := by
    intro node hnode
    apply Json.spells_writeCompact_object
    intro field hfield
    exact Json.spells_writeCompact ((h node hnode).regular_of_mem_fields hfield)
  have hread := Json.spells_array (fun node => node.toJson.writeCompact) gathered hnode
    Json.allBlank_nil
  rw [toJsonAll, Json.writeCompact_array, List.map_map]
  exact hread

theorem spells_writeIndented (h : ∀ node ∈ nodes, node.IsRegular Json.Number.IsWhole depth)
    (indent : Nat) :
    Spells (depth + 2) ((toJsonAll nodes).writeIndented indent) (.array (nodes.map gathered)) := by
  apply Json.spells_writeIndented_array
  intro node hnode
  apply Json.spells_writeIndented_object
  intro field hfield
  exact Json.spells_writeIndented ((h node hnode).regular_of_mem_fields hfield) _

theorem parseAll_of_spells {s : String} {json : Json}
    (h : ∀ node ∈ nodes, node.IsRegular allowed depth)
    (hjson : Spells Json.depthLimit s.toList json)
    (hitems : elements? json = some (nodes.map gathered)) : parseAll s = .ok nodes :=
  parseAll_eq_ok_iff.2 ⟨json, _, Json.parse_of_spells hjson, hitems, mapM_ofJson_gathered h⟩

theorem regular_of_mem_elements {json item : Json} {items : List Json}
    (hjson : Regular allowed (depth + 1) json) (h : elements? json = some items)
    (hitem : item ∈ items) : Regular allowed depth item := by
  cases hjson with
  | array hitems =>
      cases h
      exact hitems item hitem
  | @object _ fields _ hvalues =>
      rw [elements?] at h
      split at h
      · rename_i others hlist
        cases h
        have hmem : (listKey, Json.array items) ∈ fields := by
          obtain ⟨before, after, hfields, -⟩ := List.lookup_eq_some_iff.1 hlist
          rw [hfields]
          simp
        cases hvalues _ hmem with
        | array hitems => exact (hitems item hitem).mono (by omega)
      · cases h
  | _ => cases h

theorem isRegular_of_parseAll_of_number {s : String}
    (hnumber : ∀ text n left, Json.Reader.number text = .ok (n, left) → allowed n)
    (h : parseAll s = .ok nodes) (hnode : node ∈ nodes) :
    node.IsRegular allowed (Json.depthLimit - 2) := by
  obtain ⟨json, items, hjson, hitems, hread⟩ := parseAll_eq_ok_iff.1 h
  obtain ⟨item, hitem, hnode⟩ := exists_of_mem_mapM hread hnode
  have hregular : Regular allowed 127 json := Json.regular_of_parse hnumber hjson
  exact isRegular_of_ofJson (regular_of_mem_elements hregular hitems hitem) hnode

theorem isRegular_of_parseAll {s : String} (h : parseAll s = .ok nodes) (hnode : node ∈ nodes) :
    node.IsRegular (fun _ => True) (Json.depthLimit - 2) :=
  isRegular_of_parseAll_of_number (fun _ _ _ _ => trivial) h hnode

/-- Any number of nodes, in whatever order and with whatever names, is read from the text it is
written as, and from an object that has such a text next to others. An earlier member with the same
key does not matter, the last one counts. What is read from any text is kept in this form, and no
setting has the key of the name. -/
theorem parseAll_of_written {depth : Nat} {nodes : List NetworkNode}
    (h : ∀ node ∈ nodes, node.IsRegular Json.Number.IsWhole depth)
    (hdepth : depth + 2 ≤ Json.depthLimit) :
    parseAll (toJsonAll nodes).compact = .ok nodes ∧
      parseAll (toJsonAll nodes).pretty = .ok nodes ∧
      (depth + 3 ≤ Json.depthLimit →
        ∀ (before after : List (String × List Char)) (text : List Char),
          text = (toJsonAll nodes).writeCompact ∨
            (∃ indent, text = (toJsonAll nodes).writeIndented indent) →
          (∀ member ∈ after, member.1 ≠ listKey) →
          (∀ member ∈ before ++ after, ∃ v, Spells (Json.depthLimit - 1) member.2 v) →
          parseAll (String.ofList (Json.objectText (before ++ (listKey, text) :: after))) =
            .ok nodes) ∧
      ∀ (s : String) (others : List NetworkNode), parseAll s = .ok others →
        ∀ node ∈ others, node.IsRegular (fun _ => True) (Json.depthLimit - 2) := by
  have hregular : ∀ node ∈ nodes, node.IsRegular Json.Number.IsWhole 125 := fun node hnode =>
    (h node hnode).mono (by rw [Json.depthLimit] at hdepth; omega)
  refine ⟨?_, ?_, ?_, ?_⟩
  · have hread : Spells Json.depthLimit (toJsonAll nodes).compact.toList
        (.array (nodes.map gathered)) := by
      rw [Json.compact, String.toList_ofList]
      exact spells_writeCompact hregular
    exact parseAll_of_spells hregular hread rfl
  · have hread : Spells Json.depthLimit (toJsonAll nodes).pretty.toList
        (.array (nodes.map gathered)) := by
      rw [Json.pretty, String.toList_ofList]
      exact spells_writeIndented hregular 0
    exact parseAll_of_spells hregular hread rfl
  · intro hwrapped before after text htext hafter hothers
    have hinner : ∀ node ∈ nodes, node.IsRegular Json.Number.IsWhole 124 := fun node hnode =>
      (h node hnode).mono (by rw [Json.depthLimit] at hwrapped; omega)
    have hspells : Spells 126 text (.array (nodes.map gathered)) := by
      rcases htext with rfl | ⟨indent, rfl⟩
      · exact spells_writeCompact hinner
      · exact spells_writeIndented hinner indent
    obtain ⟨fields, hobject, hlist⟩ := Json.spells_objectText hspells hafter hothers
    apply parseAll_of_spells hinner
    · rw [String.toList_ofList]
      exact hobject
    · rw [elements?, hlist]
  · intro s others hothers node hnode
    exact isRegular_of_parseAll hothers hnode

/-- Two nodes with one name, one of them with an object in a list, and a node without a name. -/
theorem parseAll_of_written_nested :
    let inner : Json := .object [("bits", .number (.integer 18446744073709551615)), ("none", .null)]
    let nodes : List NetworkNode :=
      [⟨"CAN1", [("Channels", .array [.number (.integer (-9223372036854775808)), inner])]⟩,
        ⟨"", []⟩, ⟨"CAN1", [("", .string "tab\t\"quote\""), ("name", .bool true)]⟩]
    let text := Json.objectText ([("NetworkNodes", ['7']), ("Kind", ['[', '{', '}', ']'])] ++
      (listKey, (toJsonAll nodes).writeCompact) :: [("Zone", ['t', 'r', 'u', 'e'])])
    parseAll (toJsonAll nodes).compact = .ok nodes ∧ parseAll (String.ofList text) = .ok nodes := by
  intro inner nodes text
  have hregular : ∀ node ∈ nodes, node.IsRegular Json.Number.IsWhole 2 := by
    have hinner : Regular Json.Number.IsWhole 1 inner := by
      refine .object (by decide) ?_
      intro field hfield
      simp only [List.mem_cons, List.not_mem_nil, or_false] at hfield
      rcases hfield with rfl | rfl
      · exact .number ⟨by decide, by decide⟩
      · exact .null
    intro node hnode
    simp only [nodes, List.mem_cons, List.not_mem_nil, or_false] at hnode
    rcases hnode with rfl | rfl | rfl
    · refine ⟨by decide, by decide, ?_⟩
      simp only [List.mem_singleton, forall_eq]
      refine .array ?_
      simp only [List.mem_cons, List.not_mem_nil, or_false, forall_eq_or_imp, forall_eq]
      exact ⟨.number ⟨by decide, by decide⟩, hinner⟩
    · exact ⟨by decide, by decide, by simp⟩
    · refine ⟨by decide, by decide, ?_⟩
      simp only [List.mem_cons, List.not_mem_nil, or_false, forall_eq_or_imp, forall_eq]
      exact ⟨.string _, .bool _⟩
  obtain ⟨hcompact, -, hwrapped, -⟩ := parseAll_of_written hregular (by decide)
  refine ⟨hcompact, hwrapped (by decide) _ _ _ (.inl rfl) (by decide) ?_⟩
  intro member hmember
  simp only [List.cons_append, List.nil_append, List.mem_cons, List.not_mem_nil,
    or_false] at hmember
  rcases hmember with rfl | rfl | rfl
  · exact ⟨_, rfl⟩
  · exact ⟨_, rfl⟩
  · exact ⟨_, rfl⟩

end BusLocator.NetworkNode
