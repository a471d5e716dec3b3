import BusLocator.Proofs.Template.Segments
import BusLocator.Proofs.Text.Simultaneous
/-!
# Substituting a placeholder

A placeholder is replaced three times in the whole text, once for each way of writing it. Unless its
value could be read as a part of what is looked for, this is one pass over the text
(`substitute_onePass`), also where percent signs are shared or one notation stands within another.
-/

namespace BusLocator.Template

variable {name value : List Char}

theorem Spelling.notMem_write {c : Char} (hsigns : c ≠ '%' ∧ c ≠ '$' ∧ c ≠ '{' ∧ c ≠ '}')
    (hname : c ∉ name) (spelling : Spelling) : c ∉ spelling.write name := by
  cases spelling <;> simp [Spelling.write, hsigns, hname]

theorem Spelling.head_write (name : List Char) (spelling : Spelling) :
    ∃ sign ∈ (spelling.write name).head?, sign = '%' ∨ sign = '$' := by
  cases spelling
  · exact ⟨'%', rfl, .inl rfl⟩
  · exact ⟨'$', rfl, .inr rfl⟩
  · exact ⟨'$', rfl, .inr rfl⟩

theorem Spelling.keepsApart (hplain : IsPlain value)
    (hhead : ∃ c ∈ value.head?, c ≠ '{' ∧ c ≠ '}' ∧ c ∉ name) (spelling : Spelling) :
    KeepsApart value (spelling.write name) := by
  obtain ⟨c, hc, hopen, hclose, hname⟩ := hhead
  obtain ⟨rest, rfl⟩ := List.head?_eq_some_iff.1 hc
  obtain ⟨hpercent, hdollar⟩ := hplain
  refine ⟨⟨c, hc, spelling.notMem_write ⟨?_, ?_, hopen, hclose⟩ hname⟩, ?_⟩
  · rintro rfl
    exact hpercent List.mem_cons_self
  · rintro rfl
    exact hdollar List.mem_cons_self
  · obtain ⟨sign, hsign, rfl | rfl⟩ := spelling.head_write name
    · exact ⟨'%', hsign, hpercent⟩
    · exact ⟨'$', hsign, hdollar⟩

theorem Spelling.pairwise_precedes (hname : name ≠ [])
    (hsigns : ∀ sign ∈ ['%', '$', '{', '}'], sign ∉ name) :
    (Spelling.all.map (Spelling.write name)).Pairwise Precedes := by
  have hpercent := hsigns '%' (by decide)
  have hdollar := hsigns '$' (by decide)
  obtain ⟨c, rest, rfl⟩ := List.exists_cons_of_ne_nil hname
  have hopen : c ≠ '{' := fun h => hsigns '{' (by decide) (h ▸ List.mem_cons_self)
  have hbraced : Precedes (Spelling.percent.write (c :: rest))
      (Spelling.braced.write (c :: rest)) := by
    simpa [Spelling.write, Precedes] using hpercent
  have hbare : Precedes (Spelling.percent.write (c :: rest)) (Spelling.bare.write (c :: rest)) := by
    simpa [Spelling.write, Precedes] using hpercent
  have hlast : Precedes (Spelling.braced.write (c :: rest)) (Spelling.bare.write (c :: rest)) := by
    simpa [Spelling.write, Precedes, hopen, hopen.symm] using hdollar
  simp [Spelling.all, hbraced, hbare, hlast]

/-- Replacing the three ways of writing a name one after the other is going through the text once
and replacing the first of them that matches, and afterwards none is left. -/
theorem substitute_onePass (hname : name ≠ [])
    (hsigns : ∀ sign ∈ ['%', '$', '{', '}'], sign ∉ name) (hplain : IsPlain value)
    (hhead : ∃ c ∈ value.head?, c ≠ '{' ∧ c ≠ '}' ∧ c ∉ name) (text : List Char) :
    substitute name value text =
        replaceEach ['%' :: name ++ ['%'], '$' :: '{' :: name ++ ['}'], '$' :: name] value text ∧
      ∀ spelling : Spelling, ¬ spelling.write name <:+: substitute name value text := by
  have hvalue : ∀ p ∈ Spelling.all.map (Spelling.write name), KeepsApart value p := by
    intro p hp
    obtain ⟨spelling, -, rfl⟩ := List.mem_map.1 hp
    exact spelling.keepsApart hplain hhead
  refine ⟨foldl_replaceAll_eq_replaceEach hvalue (Spelling.pairwise_precedes hname hsigns) text, ?_⟩
  intro spelling
  have hmem : spelling ∈ Spelling.all := by cases spelling <;> decide
  exact not_isInfix_foldl_replaceAll hvalue (List.mem_map_of_mem hmem) text

/-- Percent signs that two occurrences would share, and one notation inside another. -/
theorem substitute_onePass_overlapping :
    let name := Placeholder.domain.name.toList
    let text := '%' :: name ++ '%' :: name ++ ['%', '$', '$', '{'] ++ name ++
      ['}', '%', '$', '{'] ++ name ++ ['}', '%']
    let result := ['4', '2'] ++ name ++ ['%', '$', '4', '2', '%', '4', '2', '%']
    substitute name ['4', '2'] text = result ∧ ¬ '$' :: name <:+: result := by
  have hsigns : ∀ sign ∈ ['%', '$', '{', '}'], sign ∉ Placeholder.domain.name.toList := by
    intro sign hsign
    simp only [List.mem_cons, List.not_mem_nil, or_false] at hsign
    rcases hsign with rfl | rfl | rfl | rfl <;> decide +kernel
  have hhead : ∃ c ∈ ['4', '2'].head?, c ≠ '{' ∧ c ≠ '}' ∧ c ∉ Placeholder.domain.name.toList :=
    ⟨'4', rfl, by decide +kernel⟩
  intro name text result
  have hpass := substitute_onePass (by decide +kernel) hsigns (by decide) hhead text
  have hresult : substitute name ['4', '2'] text = result := by
    rw [hpass.1]
    decide +kernel
  exact ⟨hresult, hresult ▸ hpass.2 .bare⟩

end BusLocator.Template
