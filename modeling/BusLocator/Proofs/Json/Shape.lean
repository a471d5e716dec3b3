import BusLocator.Proofs.Json.RoundTrip
/-!
# What is read

A value that comes out of a text is in order at every depth, because an object is gathered member
by member, and is not nested deeper than the reader goes (`regular_of_value`). So the order of
members is never something to ask of what was read.
-/

namespace BusLocator.Json

open Reader (elements members)

variable {α σ : Type} {depth fuel : Nat} {text left : List Char} {v : Json}

/-! ### Loops over elements and members -/

theorem forall_mem_of_elements {element : Reader α} {P : α → Prop} {values : List α}
    (helement : ∀ text a left, element text = .ok (a, left) → P a)
    (h : elements element fuel text = .ok (values, left)) : ∀ a ∈ values, P a := by
  induction fuel generalizing text values with
  | zero => cases h
  | succ fuel ih =>
      obtain ⟨value, behind, hvalue, hnext⟩ := Reader.elements_succ_eq_ok_iff.1 h
      have hfirst : P value := helement text value behind hvalue
      rcases hnext with ⟨-, rfl⟩ | ⟨more, c, next, others, -, -, -, hothers, rfl⟩
      · intro a ha
        rw [List.mem_singleton.1 ha]
        exact hfirst
      · intro a ha
        rcases List.mem_cons.1 ha with rfl | ha
        · exact hfirst
        · exact ih hothers a ha

theorem forall_mem_of_array {element : Reader α} {P : α → Prop} {values : List α}
    (helement : ∀ text a left, element text = .ok (a, left) → P a)
    (h : Reader.array element text = .ok (values, left)) : ∀ a ∈ values, P a := by
  unfold Reader.array at h
  split at h
  · cases h
  · cases h
    intro a ha
    exact absurd ha List.not_mem_nil
  · exact forall_mem_of_elements helement h

theorem invariant_of_members {member : σ → String → Reader σ} {P : σ → Prop} {start result : σ}
    (hmember : ∀ gathered key text reached left, P gathered →
      member gathered key text = .ok (reached, left) → P reached)
    (hstart : P start) (h : members member fuel start text = .ok (result, left)) : P result := by
  induction fuel generalizing start text with
  | zero => cases h
  | succ fuel ih =>
      obtain ⟨key, behind, reached, after, -, hreached, hnext⟩ := Reader.members_succ_eq_ok_iff.1 h
      have hfirst : P reached := hmember start key behind reached after hstart hreached
      rcases hnext with ⟨-, rfl⟩ | ⟨more, next, -, -, hothers⟩
      · exact hfirst
      · exact ih hfirst hothers

theorem invariant_of_object {member : σ → String → Reader σ} {P : σ → Prop} {start result : σ}
    (hmember : ∀ gathered key text reached left, P gathered →
      member gathered key text = .ok (reached, left) → P reached)
    (hstart : P start) (h : Reader.object member start text = .ok (result, left)) : P result := by
  unfold Reader.object at h
  split at h
  · cases h
  · cases h
    exact hstart
  · exact invariant_of_members hmember hstart h
  · cases h

/-! ### Values -/

section Values

variable {allowed : Number → Prop}
  (hnumber : ∀ text n left, Reader.number text = .ok (n, left) → allowed n)

include hnumber in
theorem regular_of_leaf {c : Char} {more : List Char} (h : Reader.leaf (c :: more) = .ok (v, left))
    (depth : Nat) : Regular allowed depth v := by
  unfold Reader.leaf at h
  split at h
  · cases h
  · obtain ⟨rest, -, heq⟩ := Except.map_eq_ok_iff.1 h
    cases heq
    exact .null
  · obtain ⟨rest, -, heq⟩ := Except.map_eq_ok_iff.1 h
    cases heq
    exact .bool true
  · obtain ⟨rest, -, heq⟩ := Except.map_eq_ok_iff.1 h
    cases heq
    exact .bool false
  · obtain ⟨⟨s, rest⟩, -, heq⟩ := Except.map_eq_ok_iff.1 h
    cases heq
    exact .string s
  · split at h
    · obtain ⟨⟨n, rest⟩, hread, heq⟩ := Except.map_eq_ok_iff.1 h
      cases heq
      exact .number (hnumber _ n _ hread)
    · cases h

def RegularFields (allowed : Number → Prop) (depth : Nat) (fields : Fields) : Prop :=
  Ascending fields ∧ ∀ field ∈ fields, Regular allowed depth field.2

theorem regularFields_of_field {value : Reader Json} {gathered reached : Fields} {key : String}
    (hvalue : ∀ text v left, value text = .ok (v, left) → Regular allowed depth v)
    (hgathered : RegularFields allowed depth gathered)
    (h : Reader.field value gathered key text = .ok (reached, left)) :
    RegularFields allowed depth reached := by
  obtain ⟨behind, -, hread⟩ := Except.bind_eq_ok_iff.1 h
  obtain ⟨⟨v, after⟩, hv, heq⟩ := Except.bind_eq_ok_iff.1 hread
  cases heq
  refine ⟨ascending_put hgathered.1, ?_⟩
  intro field hfield
  rcases mem_put hfield with rfl | hfield
  · exact hvalue behind v _ hv
  · exact hgathered.2 field hfield

include hnumber

theorem regular_of_value (h : Reader.value depth text = .ok (v, left)) :
    Regular allowed depth v := by
  induction depth generalizing text v left with
  | zero =>
      obtain ⟨c, more, -, ⟨-, -, hleaf⟩ | ⟨inner, hdepth, -⟩⟩ := Reader.value_eq_ok_iff.1 h
      · exact regular_of_leaf hnumber hleaf 0
      · cases hdepth
  | succ depth ih =>
      obtain ⟨c, more, -, hread⟩ := Reader.value_eq_ok_iff.1 h
      have hinner : ∀ text v left, Reader.value depth text = .ok (v, left) →
          Regular allowed depth v := fun _ _ _ hv => ih hv
      rcases hread with ⟨-, -, hleaf⟩ | ⟨inner, hdepth, hread⟩
      · exact regular_of_leaf hnumber hleaf (depth + 1)
      · cases hdepth
        rcases hread with ⟨-, items, hitems, rfl⟩ | ⟨-, fields, hfields, rfl⟩
        · exact .array (forall_mem_of_array hinner hitems)
        · have hregular : RegularFields allowed depth fields :=
            invariant_of_object (fun _ _ _ _ _ => regularFields_of_field hinner)
              ⟨List.Pairwise.nil, fun _ hfield => absurd hfield List.not_mem_nil⟩ hfields
          exact .object hregular.1 hregular.2

/-- What holds of every number that is read holds of those in a value that is read. -/
theorem regular_of_parse {s : String} (h : parse s = .ok v) : Regular allowed depthLimit v := by
  obtain ⟨left, hvalue, -⟩ := parse_eq_ok_iff.1 h
  exact regular_of_value hnumber hvalue

end Values

end BusLocator.Json
