import BusLocator.Proofs.Json.Spelling
import BusLocator.Text.Character
/-!
# Reading what was written

Both ways of writing put the texts of the parts between brackets, with commas between and perhaps
blanks around. So, by induction on the value, a value whose objects are in order and whose numbers
are whole is what its own text spells (`spells_writeCompact`, `spells_writeIndented`).
-/

namespace BusLocator.Json

/-- A value as it is kept: the members of every object are in ascending order, objects and arrays
are nested at most `depth` deep, and all numbers are such as `allowed`. -/
inductive Regular (allowed : Number → Prop) : Nat → Json → Prop
  | null {depth : Nat} : Regular allowed depth .null
  | bool {depth : Nat} (b : Bool) : Regular allowed depth (.bool b)
  | number {depth : Nat} {n : Number} (h : allowed n) : Regular allowed depth (.number n)
  | string {depth : Nat} (s : String) : Regular allowed depth (.string s)
  | array {depth : Nat} {items : List Json} (h : ∀ item ∈ items, Regular allowed depth item) :
      Regular allowed (depth + 1) (.array items)
  | object {depth : Nat} {fields : Fields} (horder : Ascending fields)
      (h : ∀ field ∈ fields, Regular allowed depth field.2) :
      Regular allowed (depth + 1) (.object fields)

variable {α : Type} {depth : Nat} {text : List Char} {v : Json}

theorem Regular.mono {allowed : Number → Prop} {deeper : Nat} (h : Regular allowed depth v)
    (hle : depth ≤ deeper) : Regular allowed deeper v := by
  induction h generalizing deeper with
  | null => exact .null
  | bool b => exact .bool b
  | number hn => exact .number hn
  | string s => exact .string s
  | array _ ih =>
      obtain ⟨deeper, rfl⟩ : ∃ n, deeper = n + 1 := ⟨deeper - 1, by omega⟩
      exact .array fun item hitem => ih item hitem (by omega)
  | object horder _ ih =>
      obtain ⟨deeper, rfl⟩ : ∃ n, deeper = n + 1 := ⟨deeper - 1, by omega⟩
      exact .object horder fun field hfield => ih field hfield (by omega)

/-! ### How lists are written -/

/-- What a list is written as by a recursion that puts commas between. -/
theorem eq_intercalate {f : List α → List Char} {g : α → List Char} (hnil : f [] = [])
    (hone : ∀ a, f [a] = g a) (hmore : ∀ a b as, f (a :: b :: as) = g a ++ ',' :: f (b :: as))
    (as : List α) : f as = [','].intercalate (as.map g) := by
  induction as with
  | nil => exact hnil
  | cons a as ih =>
      cases as with
      | nil => simp [hone]
      | cons b as =>
          simp only [hmore, ih, List.map_cons, List.intercalate_cons_cons, List.append_assoc,
            List.singleton_append]

theorem writeCompact_array (items : List Json) : (Json.array items).writeCompact =
    '[' :: ([','].intercalate (items.map writeCompact) ++ [']']) := by
  have hitems : compactItems items = [','].intercalate (items.map writeCompact) :=
    eq_intercalate rfl (fun _ => rfl) (fun _ _ _ => rfl) items
  rw [writeCompact, hitems]
  rfl

theorem writeCompact_object (fields : Fields) : (Json.object fields).writeCompact =
    '{' :: ([','].intercalate
      (fields.map fun field => quote field.1 ++ ':' :: field.2.writeCompact) ++ ['}']) := by
  have hfields : compactFields fields =
      [','].intercalate (fields.map fun field => quote field.1 ++ ':' :: field.2.writeCompact) := by
    apply eq_intercalate rfl (fun _ => rfl)
    intro field next fields
    simp [compactFields]
  rw [writeCompact, hfields]
  rfl

theorem writeIndented_array (indent : Nat) {items : List Json} (h : items ≠ []) :
    (Json.array items).writeIndented indent =
      '[' :: ([','].intercalate
        (items.map fun item => newLine (indent + 1) ++ item.writeIndented (indent + 1)) ++
          (newLine indent ++ [']'])) := by
  have hitems : indentedItems (indent + 1) items = [','].intercalate
      (items.map fun item => newLine (indent + 1) ++ item.writeIndented (indent + 1)) :=
    eq_intercalate rfl (fun _ => rfl) (fun _ _ _ => rfl) items
  rw [writeIndented, hitems]
  · simp
  · exact h

theorem writeIndented_object (indent : Nat) {fields : Fields} (h : fields ≠ []) :
    (Json.object fields).writeIndented indent =
      '{' :: ([','].intercalate (fields.map fun field => newLine (indent + 1) ++
        (quote field.1 ++ ':' :: (' ' :: field.2.writeIndented (indent + 1)))) ++
          (newLine indent ++ ['}'])) := by
  have hfields : indentedFields (indent + 1) fields =
      [','].intercalate (fields.map fun field => newLine (indent + 1) ++
        (quote field.1 ++ ':' :: (' ' :: field.2.writeIndented (indent + 1)))) := by
    apply eq_intercalate rfl
    · intro field
      simp [indentedFields]
    · intro field next fields
      simp [indentedFields]
  rw [writeIndented, hfields]
  · simp
  · exact h

/-! ### Both ways of writing -/

theorem spells_writeCompact_object {fields : Fields}
    (h : ∀ field ∈ fields, Spells depth field.2.writeCompact field.2) :
    Spells (depth + 1) (Json.object fields).writeCompact (.object (gather [] fields)) := by
  have hread := spells_object Prod.fst (fun field => field.2.writeCompact) Prod.snd h
    allBlank_nil allBlank_nil
  rw [show fields.map (fun field => (field.1, field.2)) = fields from List.map_id fields] at hread
  rw [writeCompact_object]
  exact hread

theorem spells_writeCompact (h : Regular Number.IsWhole depth v) :
    Spells depth v.writeCompact v := by
  induction h with
  | null => exact spells_null _
  | bool b => exact spells_bool b _
  | number hn => exact spells_number hn _
  | string s => exact spells_quote s _
  | @array depth items _ ih =>
      have hread := spells_array writeCompact id ih allBlank_nil
      rw [List.map_id] at hread
      rw [writeCompact_array]
      exact hread
  | @object depth fields horder _ ih =>
      have hread := spells_writeCompact_object ih
      rw [gather_of_ascending horder] at hread
      exact hread

theorem spells_writeIndented_array (write read : α → Json) {as : List α} (indent : Nat)
    (h : ∀ a ∈ as, Spells depth ((write a).writeIndented (indent + 1)) (read a)) :
    Spells (depth + 1) ((Json.array (as.map write)).writeIndented indent)
      (.array (as.map read)) := by
  cases as with
  | nil => exact spells_writeCompact (.array fun item hitem => absurd hitem List.not_mem_nil)
  | cons a as =>
      have hread := spells_array
        (fun a => newLine (indent + 1) ++ (write a).writeIndented (indent + 1)) read
        (fun a ha => (h a ha).blanks_append (allBlank_newLine _)) (allBlank_newLine indent)
      rw [writeIndented_array indent (by simp), List.map_map]
      exact hread

theorem spells_writeIndented_object {fields : Fields} (indent : Nat)
    (h : ∀ field ∈ fields, Spells depth (field.2.writeIndented (indent + 1)) field.2) :
    Spells (depth + 1) ((Json.object fields).writeIndented indent)
      (.object (gather [] fields)) := by
  by_cases hempty : fields = []
  · subst hempty
    have hnone : ∀ field ∈ ([] : Fields), Spells depth field.2.writeCompact field.2 :=
      fun field hfield => absurd hfield List.not_mem_nil
    exact spells_writeCompact_object hnone
  · have hread := spells_object Prod.fst
      (fun field => [' '] ++ field.2.writeIndented (indent + 1)) Prod.snd
      (fun field hfield => (h field hfield).blanks_append allBlank_space)
      (allBlank_newLine (indent + 1)) (allBlank_newLine indent)
    rw [show fields.map (fun field => (field.1, field.2)) = fields from List.map_id fields] at hread
    rw [writeIndented_object indent hempty]
    exact hread

theorem spells_writeIndented (h : Regular Number.IsWhole depth v) (indent : Nat) :
    Spells depth (v.writeIndented indent) v := by
  induction h generalizing indent with
  | null => exact spells_null _
  | bool b => exact spells_bool b _
  | number hn => exact spells_number hn _
  | string s => exact spells_quote s _
  | @array depth items _ ih =>
      have hread := spells_writeIndented_array id id indent fun item hitem => ih item hitem _
      rw [List.map_id] at hread
      exact hread
  | @object depth fields horder _ ih =>
      have hread := spells_writeIndented_object indent fun field hfield => ih field hfield _
      rw [gather_of_ascending horder] at hread
      exact hread

/-! ### Whole texts -/

theorem parse_eq_ok_iff {s : String} :
    parse s = .ok v ↔
      ∃ left, Reader.value depthLimit s.toList = .ok (v, left) ∧ Reader.skipBlanks left = [] := by
  rw [parse, Reader.whole]
  cases Reader.value depthLimit s.toList with
  | error fault => simp [Except.mapError, bind, Except.bind]
  | ok result =>
      obtain ⟨w, left⟩ := result
      cases hleft : Reader.skipBlanks left with
      | nil => simp [Except.mapError, bind, Except.bind, hleft, pure, Except.pure]
      | cons c more =>
          refine iff_of_false ?_ ?_
          · simp [Except.mapError, bind, Except.bind, hleft, Reader.faultAt]
          · rintro ⟨behind, heq, hbehind⟩
            cases heq
            cases hleft.symm.trans hbehind

theorem parse_of_spells {s : String} (h : Spells depthLimit s.toList v) : parse s = .ok v :=
  parse_eq_ok_iff.2 ⟨[], h, rfl⟩

/-- A text of blank characters, also of such as JSON does not know, is no value. -/
theorem parse_of_forall_isBlank {text : String} (h : ∀ c ∈ text.toList, isBlank c = true)
    (v : Json) : parse text ≠ .ok v := by
  intro hparse
  obtain ⟨left, hvalue, -⟩ := parse_eq_ok_iff.1 hparse
  obtain ⟨c, more, htext, hread⟩ := Reader.value_eq_ok_iff.1 hvalue
  have hc : isBlank c = true := by
    refine h c ((List.dropWhile_sublist Reader.isBlank).subset ?_)
    rw [← Reader.skipBlanks, htext]
    exact List.mem_cons_self
  rcases hread with ⟨-, -, hleaf⟩ | ⟨-, -, ⟨rfl, -⟩ | ⟨rfl, -⟩⟩
  · have hstart : c ∉ ['n', 't', 'f', '"'] := by
      intro hmem
      simp only [List.mem_cons, List.not_mem_nil, or_false] at hmem
      rcases hmem with rfl | rfl | rfl | rfl <;> contradiction
    have hnumber : (c = '-' || c.isDigit) = false := by
      by_contra hnumber
      rw [Bool.not_eq_false, Bool.or_eq_true, decide_eq_true_eq, Char.isDigit_iff_toNat] at hnumber
      simp only [isBlank, inTable, blankTable, List.any_cons, List.any_nil, Bool.or_false,
        Bool.or_eq_true, Bool.and_eq_true, decide_eq_true_eq] at hc
      rcases hnumber with rfl | hdigit
      · simp at hc
      · have hcode : 48 ≤ c.toNat ∧ c.toNat ≤ 57 := hdigit
        omega
    rw [Reader.leaf_of_notMem hstart, if_neg (by simp [hnumber])] at hleaf
    cases hleaf
  · contradiction
  · contradiction

def objectText (members : List (String × List Char)) : List Char :=
  '{' :: ([','].intercalate (members.map fun member => quote member.1 ++ ':' :: member.2) ++ ['}'])

theorem spells_objectText {key : String} {before after : List (String × List Char)}
    (htext : Spells depth text v) (hafter : ∀ member ∈ after, member.1 ≠ key)
    (hothers : ∀ member ∈ before ++ after, ∃ w, Spells depth member.2 w) :
    ∃ fields, Spells (depth + 1) (objectText (before ++ (key, text) :: after)) (.object fields) ∧
      field? key fields = some v := by
  have hall : ∀ member ∈ before ++ (key, text) :: after, ∃ w, Spells depth member.2 w := by
    intro member hmember
    rcases List.mem_append.1 hmember with hbefore | hmember
    · exact hothers member (List.mem_append_left after hbefore)
    · rcases List.mem_cons.1 hmember with rfl | hmember
      · exact ⟨v, htext⟩
      · exact hothers member (List.mem_append_right before hmember)
  choose! value hvalue using hall
  have hsame : value (key, text) = v := by
    have hread : Spells depth text (value (key, text)) := hvalue (key, text) (by simp)
    exact (Prod.mk.inj (Except.ok.inj (hread.symm.trans htext))).1
  refine ⟨_, spells_object Prod.fst Prod.snd value hvalue allBlank_nil allBlank_nil, ?_⟩
  rw [List.map_append, List.map_cons, hsame]
  apply lookup_gather_of_last
  intro field hfield
  obtain ⟨member, hmember, rfl⟩ := List.mem_map.1 hfield
  exact hafter member hmember

theorem lookup_map (key : String) {α β : Type} (f : α → β) (members : List (String × α)) :
    (members.map fun member => (member.1, f member.2)).lookup key =
      (members.lookup key).map f := by
  induction members with
  | nil => rfl
  | cons member members ih =>
      rw [List.map_cons, List.lookup_cons, List.lookup_cons, ih]
      cases key == member.1 <;> rfl

theorem parse_objectText {members : List (String × List Char)} {value : List Char → Json}
    (h : ∀ member ∈ members, Spells 126 member.2 (value member.2)) :
    parse (String.ofList (objectText members)) =
      .ok (.object (gather [] (members.map fun member => (member.1, value member.2)))) := by
  apply parse_of_spells
  rw [String.toList_ofList]
  exact spells_object Prod.fst Prod.snd (fun member => value member.2) h allBlank_nil allBlank_nil

theorem field?_gather (key : String) (members : List (String × List Char))
    (value : List Char → Json) :
    field? key (gather [] (members.map fun member => (member.1, value member.2))) =
      (members.reverse.lookup key).map value := by
  rw [field?, lookup_gather, ← List.map_reverse, lookup_map]
  exact Option.or_none

end BusLocator.Json
