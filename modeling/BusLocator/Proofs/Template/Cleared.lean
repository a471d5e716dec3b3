import BusLocator.Proofs.Template.Reference
import BusLocator.Proofs.Text.Occurrence
import BusLocator.Template.Placeholder
/-!
# No placeholder is left

A text is filled in by fifteen replacements, one after the other. If what is put in are absolute
paths, numbers and a name that is not all capitals, none of the five names is referred to
afterwards, however the text was built.

The invariant is `Cleared`: no closed way of writing the name is left, and a bare one is always
followed by more of a word, so it is a reference to something longer. Every replacement keeps it,
and the replacement of the name establishes it.
-/

namespace BusLocator.Template

def IsCapital (name : List Char) : Prop :=
  ∀ c ∈ name, c.isUpper = true ∨ c = '_'

/-- A text like an absolute path, in which no reference begins. -/
def IsRooted (text : List Char) : Prop :=
  text.head? = some '/' ∧ '%' ∉ text ∧ '$' ∉ text

/-- An ASCII word that is not all capitals. -/
def IsMixedWord (text : List Char) : Prop :=
  (∀ c ∈ text, c.isAlphanum = true ∨ c = '_') ∧ ∃ c ∈ text, c.isLower = true ∨ c.isDigit = true

def ContinuesWord (rest : List Char) : Prop :=
  ∃ c ∈ rest.head?, isWordChar c = true

/-- A text that refers to a name nowhere. -/
def Cleared (name text : List Char) : Prop :=
  OccursOnlyBefore ('%' :: name ++ ['%']) (fun _ => False) text ∧
    OccursOnlyBefore ('$' :: '{' :: name ++ ['}']) (fun _ => False) text ∧
    OccursOnlyBefore ('$' :: name) ContinuesWord text

/-! ### Character classes in numbers -/

theorem isUpper_iff {c : Char} : c.isUpper = true ↔ 65 ≤ c.toNat ∧ c.toNat ≤ 90 :=
  decide_eq_true_iff

theorem isLower_iff {c : Char} : c.isLower = true ↔ 97 ≤ c.toNat ∧ c.toNat ≤ 122 := by
  have hlower : c.isLower = (decide ('a'.val ≤ c.val) && decide (c.val ≤ 'z'.val)) := rfl
  rw [hlower, Bool.and_eq_true, decide_eq_true_iff, decide_eq_true_iff]
  rfl

theorem isDigit_iff {c : Char} : c.isDigit = true ↔ 48 ≤ c.toNat ∧ c.toNat ≤ 57 :=
  Char.isDigit_iff_toNat

theorem isAlphanum_iff {c : Char} : c.isAlphanum = true ↔
    (c.isUpper = true ∨ c.isLower = true) ∨ c.isDigit = true := by
  have halphanum : c.isAlphanum = ((c.isUpper || c.isLower) || c.isDigit) := rfl
  rw [halphanum, Bool.or_eq_true, Bool.or_eq_true]

theorem isWordChar_of_isAlphanum {c : Char} (h : c.isAlphanum = true ∨ c = '_') :
    isWordChar c = true := by
  rcases h with h | rfl
  · have hascii : c.toNat < 0x80 := by
      rw [isAlphanum_iff, isUpper_iff, isLower_iff, isDigit_iff] at h
      omega
    simp [isWordChar, hascii, h]
  · decide

/-! ### A cleared text makes no reference -/

theorem not_reference_of_cleared {platform : Platform} {name text suffix : List Char}
    (hcleared : Cleared name text) (hsuffix : suffix <:+ text) {r : Reference}
    (hreference : reference? platform suffix = some r) : r.name ≠ name := by
  rintro rfl
  obtain ⟨hpercent, hbraced, hbare⟩ := hcleared
  rcases eq_of_reference? hreference with ⟨rest, rfl⟩ | ⟨rest, rfl⟩ | ⟨rest, rfl, hstop⟩
  · exact hpercent rest (by simpa using hsuffix)
  · exact hbraced rest (by simpa using hsuffix)
  · obtain ⟨c, hc, hword⟩ := hbare rest hsuffix
    have hname : isNameChar platform c = true := by cases platform <;> simp [isNameChar, hword]
    rw [hstop c hc] at hname
    contradiction

/-! ### What is put in makes no reference -/

/-- A word that can be a way of writing a name. -/
structure Opens (word : List Char) : Prop where
  sign : ∀ c ∈ word.head?, c = '%' ∨ c = '$'
  plain : ∀ c ∈ word, c.isLower = false ∧ c.isDigit = false ∧ c ≠ '/'

theorem shields_of_isRooted {value word : List Char} {follow : List Char → Prop}
    (hvalue : IsRooted value) (hword : Opens word) : Shields value word follow := by
  obtain ⟨hhead, hpercent, hdollar⟩ := hvalue
  constructor
  · intro c hc
    rcases hword.sign c hc with rfl | rfl
    · exact hpercent
    · exact hdollar
  · intro kept cut rest text heq hcut hover
    -- The value would begin within the word, with a slash.
    obtain ⟨d, cut, rfl⟩ := List.exists_cons_of_ne_nil hcut
    obtain ⟨value, rfl⟩ := List.head?_eq_some_iff.1 hhead
    obtain rfl : d = '/' := (List.cons.inj hover).1
    exact absurd rfl (hword.plain '/' (by simp [heq])).2.2

theorem shields_of_isMixedWord {value word : List Char} {follow : List Char → Prop}
    (hvalue : IsMixedWord value) (hword : Opens word)
    (hend : (∃ c ∈ word.getLast?, c.isAlphanum = false ∧ c ≠ '_') ∨
      ∀ rest, ContinuesWord rest → follow rest) : Shields value word follow := by
  obtain ⟨halphanum, m, hm, hmixed⟩ := hvalue
  have hnotWithin : ¬ value ⊆ word := by
    intro hsub
    have hplain := hword.plain m (hsub hm)
    rcases hmixed with h | h
    · rw [hplain.1] at h
      contradiction
    · rw [hplain.2.1] at h
      contradiction
  constructor
  · intro c hc hmem
    rcases hword.sign c hc with rfl | rfl <;> simpa using halphanum _ hmem
  · intro kept cut rest text heq hcut hover
    rcases List.append_eq_append_iff.1 hover with ⟨beyond, rfl, rfl⟩ | ⟨beyond, rfl, -⟩
    · rcases hend with ⟨c, hc, hsign, hunderscore⟩ | hfollow
      · -- The word would end within the value, with a sign.
        have hlast : cut.getLast? = some c := by
          rw [heq, List.getLast?_append, List.getLast?_eq_some_getLast hcut] at hc
          rw [List.getLast?_eq_some_getLast hcut]
          exact hc
        have hmem : c ∈ cut ++ beyond := List.mem_append_left _ (List.mem_of_getLast? hlast)
        rcases halphanum c hmem with h | h
        · rw [hsign] at h
          contradiction
        · contradiction
      · cases beyond with
        | nil =>
            have hwithin : cut ++ [] ⊆ word := by
              rw [heq, List.append_nil]
              exact List.subset_append_right kept cut
            exact absurd hwithin hnotWithin
        | cons c beyond =>
            exact hfollow _ ⟨c, rfl, isWordChar_of_isAlphanum (halphanum c (by simp))⟩
    · have hwithin : value ⊆ word := by
        intro c hc
        rw [heq]
        exact List.mem_append_right kept (List.mem_append_left beyond hc)
      exact absurd hwithin hnotWithin

theorem IsCapital.plain {name : List Char} (hname : IsCapital name) {c : Char} (hc : c ∈ name) :
    c.isLower = false ∧ c.isDigit = false ∧ c ≠ '/' := by
  rcases hname c hc with h | rfl
  · rw [isUpper_iff] at h
    refine ⟨?_, ?_, ?_⟩
    · rw [← Bool.not_eq_true, isLower_iff]
      omega
    · rw [← Bool.not_eq_true, isDigit_iff]
      omega
    · rintro rfl
      exact absurd h (by decide)
  · decide

theorem opens_of_mem_spellings {name word : List Char} (hname : IsCapital name)
    (hword : word ∈ spellings name) : Opens word := by
  simp only [spellings, List.mem_cons, List.not_mem_nil, or_false] at hword
  constructor
  · intro c hc
    rcases hword with rfl | rfl | rfl <;> simp at hc <;> simp [← hc]
  · intro c hc
    have hsigns : c ∈ name ∨ c = '%' ∨ c = '$' ∨ c = '{' ∨ c = '}' := by
      rcases hword with rfl | rfl | rfl <;> simp at hc <;> grind
    rcases hsigns with h | rfl | rfl | rfl | rfl
    · exact hname.plain h
    all_goals decide

/-- A text that makes no reference to a capital name, whatever it is put next to. -/
def IsHarmless (value : List Char) : Prop :=
  IsRooted value ∨ IsMixedWord value

theorem shields_closed {name value word : List Char} (hname : IsCapital name)
    (hvalue : IsHarmless value)
    (hword : word = '%' :: name ++ ['%'] ∨ word = '$' :: '{' :: name ++ ['}']) :
    Shields value word fun _ => False := by
  have hopens : Opens word := by
    refine opens_of_mem_spellings hname ?_
    rcases hword with rfl | rfl <;> simp [spellings]
  rcases hvalue with hrooted | hmixed
  · exact shields_of_isRooted hrooted hopens
  · refine shields_of_isMixedWord hmixed hopens (.inl ?_)
    rcases hword with rfl | rfl
    · exact ⟨'%', List.getLast?_concat, by decide⟩
    · exact ⟨'}', List.getLast?_concat, by decide⟩

theorem shields_bare {name value : List Char} (hname : IsCapital name) (hvalue : IsHarmless value) :
    Shields value ('$' :: name) ContinuesWord := by
  have hopens : Opens ('$' :: name) := opens_of_mem_spellings hname (by simp [spellings])
  rcases hvalue with hrooted | hmixed
  · exact shields_of_isRooted hrooted hopens
  · exact shields_of_isMixedWord hmixed hopens (.inr fun _ h => h)

theorem continuesWord_replaceAll {pattern value rest : List Char}
    (hpattern : ∃ c ∈ pattern.head?, isWordChar c = false) (h : ContinuesWord rest) :
    ContinuesWord (replaceAll pattern value rest) := by
  obtain ⟨sign, hsign, hnoWord⟩ := hpattern
  obtain ⟨c, hc, hword⟩ := h
  obtain ⟨pattern, rfl⟩ := List.head?_eq_some_iff.1 hsign
  obtain ⟨rest, rfl⟩ := List.head?_eq_some_iff.1 hc
  have hne : sign ≠ c := by
    rintro rfl
    rw [hword] at hnoWord
    contradiction
  have hprefix : (sign :: pattern).isPrefixOf (c :: rest) = false := by
    rw [Bool.eq_false_iff, ne_eq, List.isPrefixOf_iff_prefix, List.cons_prefix_cons]
    exact fun h => hne h.1
  rw [replaceAll_of_not_isPrefixOf hprefix]
  exact ⟨c, rfl, hword⟩

/-! ### The fifteen replacements -/

def replacements (value : Placeholder → String) : List (List Char × List Char) :=
  Placeholder.all.flatMap fun p => (spellings p.name.toList).map (·, (value p).toList)

theorem substituteAll_eq (value : Placeholder → String) (text : List Char) :
    substituteAll value text =
      (replacements value).foldl (fun text job => replaceAll job.1 job.2 text) text := by
  simp [substituteAll, substitute, replacements, List.foldl_flatMap, List.foldl_map]

theorem isCapital_name (p : Placeholder) : IsCapital p.name.toList := by
  have hall : p.name.toList.all (fun c => c.isUpper || c = '_') = true := by
    cases p <;> decide +kernel
  intro c hc
  simpa using List.all_eq_true.1 hall c hc

theorem cleared_substituteAll {value : Placeholder → String}
    (hvalue : ∀ p, IsHarmless (value p).toList) (p : Placeholder) (text : List Char) :
    Cleared p.name.toList (substituteAll value text) := by
  have hname := isCapital_name p
  have hmem : ∀ word ∈ spellings p.name.toList, word ∈ (replacements value).map Prod.fst := by
    intro word hword
    simp only [replacements, List.mem_map, List.mem_flatMap]
    exact ⟨_, ⟨p, by cases p <;> decide, word, hword, rfl⟩, rfl⟩
  have hjobs : ∀ job ∈ replacements value, IsHarmless job.2 ∧
      ∃ c ∈ job.1.head?, isWordChar c = false := by
    intro job hjob
    simp only [replacements, List.mem_map, List.mem_flatMap] at hjob
    obtain ⟨q, -, word, hword, rfl⟩ := hjob
    refine ⟨hvalue q, ?_⟩
    simp only [spellings, List.mem_cons, List.not_mem_nil, or_false] at hword
    rcases hword with rfl | rfl | rfl
    · exact ⟨'%', rfl, by decide⟩
    all_goals exact ⟨'$', rfl, by decide⟩
  rw [substituteAll_eq]
  refine ⟨?_, ?_, ?_⟩
  · refine occursOnlyBefore_foldl_replaceAll (by simp) (hmem _ (by simp [spellings])) ?_ text
    exact fun job hjob => ⟨shields_closed hname (hjobs job hjob).1 (.inl rfl), fun _ h => h.elim⟩
  · refine occursOnlyBefore_foldl_replaceAll (by simp) (hmem _ (by simp [spellings])) ?_ text
    exact fun job hjob => ⟨shields_closed hname (hjobs job hjob).1 (.inr rfl), fun _ h => h.elim⟩
  · refine occursOnlyBefore_foldl_replaceAll (by simp) (hmem _ (by simp [spellings])) ?_ text
    exact fun job hjob => ⟨shields_bare hname (hjobs job hjob).1,
      fun _ h => continuesWord_replaceAll (hjobs job hjob).2 h⟩

end BusLocator.Template
