import BusLocator.Proofs.Path.Sameness
import BusLocator.Proofs.Text.Encoding
import BusLocator.Template
import Mathlib.Data.List.DropRight
/-!
# What a tilde denotes

A tilde is expanded in the text: the separators at the end of the home directory are cut off and the
rest of the text is put behind. As a path this is the rest seen from the home directory, since the
number of separators at the end of a path does not count (`components_append_slashes`). Of the root
nothing is left over, and the separator in the text takes its place.
-/

namespace BusLocator

namespace Path

/-- However many separators a path ends in, one is as good. -/
theorem components_append_slashes {stem : Bytes} {n : Nat}
    (h : stem ++ List.replicate n slash ≠ []) :
    (⟨stem ++ [slash]⟩ : Path).components =
      (⟨stem ++ List.replicate n slash⟩ : Path).components := by
  induction n with
  | zero =>
      rw [List.replicate_zero, List.append_nil] at h ⊢
      exact components_concat_slash (p := ⟨stem⟩) h
  | succ n ih =>
      rw [List.replicate_succ', ← List.append_assoc]
      by_cases hne : stem ++ List.replicate n slash = []
      · rw [hne, (List.append_eq_nil_iff.1 hne).1]
      · rw [ih hne]
        exact (components_concat_slash (p := ⟨_⟩) hne).symm

theorem isAbsolute_ofString (s : String) :
    (ofString s).isAbsolute = true ↔ s.toList.head? = some '/' := by
  rw [isAbsolute, decide_eq_true_eq]
  exact Utf8.head?_encode_eq_some_iff (by decide)

end Path

namespace Template

variable {home : Path} {text : List Char}

theorem trimEnd_eq_rdropWhile {α : Type} (drops : α → Bool) (xs : List α) :
    trimEnd drops xs = xs.rdropWhile drops := rfl

theorem exists_eq_trimEnd_append (text : List Char) :
    ∃ n, text = trimEnd (· = '/') text ++ List.replicate n '/' := by
  refine ⟨(text.rtakeWhile (· = '/')).length, ?_⟩
  have hslashes : text.rtakeWhile (· = '/') =
      List.replicate (text.rtakeWhile (· = '/')).length '/' := by
    refine List.eq_replicate_of_mem fun c hc => ?_
    simpa using List.mem_rtakeWhile_imp hc
  rw [← hslashes, trimEnd_eq_rdropWhile, List.rdropWhile_append_rtakeWhile]

theorem expandHome_of_not_tilde (home : Option Path) (htilde : text ≠ ['~'])
    (hslash : ¬ ['~', '/'] <+: text) : expandHome home text = text := by
  unfold expandHome
  split
  · exact absurd rfl htilde
  · exact absurd ⟨_, rfl⟩ hslash
  · rfl

theorem expandHome_none (text : List Char) : expandHome none text = text := by
  unfold expandHome
  split <;> trivial

theorem bytes_of_string? {h : String} (hhome : home.string? = some h) :
    home.bytes = Utf8.encode h.toList :=
  Utf8.string?_eq_some_iff.1 hhome

theorem expandHome_tilde {h : String} (hhome : home.string? = some h) :
    expandHome (some home) ['~'] = h.toList := by
  show Utf8.decodeLossy home.bytes = _
  rw [bytes_of_string? hhome, Utf8.decodeLossy_encode]

/-! ### As a path -/

theorem expandHome_below {h : String} (hhome : home.string? = some h) (rest : List Char) :
    expandHome (some home) ('~' :: '/' :: rest) = trimEnd (· = '/') h.toList ++ '/' :: rest := by
  show trimEnd _ (Utf8.decodeLossy home.bytes) ++ _ = _
  rw [bytes_of_string? hhome, Utf8.decodeLossy_encode]

theorem encode_trimEnd_append (text rest : List Char) :
    Utf8.encode (trimEnd (· = '/') text ++ '/' :: rest) =
      Utf8.encode (trimEnd (· = '/') text) ++ [Path.slash] ++ Utf8.encode rest := by
  rw [Utf8.encode, List.flatMap_append, List.flatMap_cons, ← List.append_assoc]
  rfl

theorem encode_replicate (n : Nat) :
    Utf8.encode (List.replicate n '/') = List.replicate n Path.slash := by
  induction n with
  | zero => rfl
  | succ n ih =>
      rw [List.replicate_succ, Utf8.encode, List.flatMap_cons, ← Utf8.encode, ih]
      rfl

theorem exists_eq_encode_trimEnd_append (text : List Char) :
    ∃ n, Utf8.encode text =
      Utf8.encode (trimEnd (· = '/') text) ++ List.replicate n Path.slash := by
  obtain ⟨n, htext⟩ := exists_eq_trimEnd_append text
  refine ⟨n, ?_⟩
  conv_lhs => rw [htext, Utf8.encode, List.flatMap_append]
  rw [← encode_replicate]
  rfl

/-- What is behind the tilde is seen from the home directory. -/
theorem same_expandHome {h : String} (hhome : home.string? = some h) (hne : h ≠ "") {rest : String}
    (hrest : rest.toList.head? ≠ some '/') :
    (Path.ofString (String.ofList (expandHome (some home) ("~/" ++ rest).toList))).same
      (home.join (.ofString rest)) = true := by
  let stem := Utf8.encode (trimEnd (· = '/') h.toList)
  have hrelative : (Path.ofString rest).isAbsolute = false := by
    rw [Bool.eq_false_iff, ne_eq, Path.isAbsolute_ofString]
    exact hrest
  have hhomeNe : home.bytes ≠ [] := by
    intro hnil
    have htext := Utf8.decodeLossy_encode h.toList
    rw [← bytes_of_string? hhome, hnil] at htext
    exact hne (String.toList_eq_nil_iff.1 htext.symm)
  obtain ⟨n, hbytes⟩ : ∃ n, home.bytes = stem ++ List.replicate n Path.slash := by
    rw [bytes_of_string? hhome]
    exact exists_eq_encode_trimEnd_append h.toList
  have hexpanded : Path.ofString (String.ofList (expandHome (some home) ("~/" ++ rest).toList)) =
      (⟨stem ++ [Path.slash]⟩ : Path).join (.ofString rest) := by
    have htext : ("~/" ++ rest).toList = '~' :: '/' :: rest.toList := String.toList_append
    rw [htext, expandHome_below hhome, Path.ofString, Utf8.ofString, String.toList_ofList,
      encode_trimEnd_append, Path.join, if_neg (by simp [hrelative]), if_pos (.inr (by simp))]
    rfl
  have hstem : (⟨stem ++ [Path.slash]⟩ : Path).components = home.components := by
    obtain ⟨bytes⟩ := home
    obtain rfl : bytes = _ := hbytes
    exact Path.components_append_slashes hhomeNe
  rw [Path.same_iff, hexpanded, Path.components_join_of_relative (by simp) hrelative,
    Path.components_join_of_relative hhomeNe hrelative, hstem]

/-! ### Expanding twice -/

theorem expandHome_of_head? (home : Option Path) (h : text.head? = some '/') :
    expandHome home text = text := by
  obtain ⟨rest, rfl⟩ := List.head?_eq_some_iff.1 h
  apply expandHome_of_not_tilde
  · simp
  · simp [List.cons_prefix_cons]

theorem head?_trimEnd_append (h : text.head? = some '/') (rest : List Char) :
    (trimEnd (· = '/') text ++ '/' :: rest).head? = some '/' := by
  obtain ⟨n, htext⟩ := exists_eq_trimEnd_append text
  cases htrimmed : trimEnd (· = '/') text with
  | nil => rfl
  | cons c trimmed =>
      rw [htext, htrimmed] at h
      exact h

theorem head?_decodeLossy (h : home.isAbsolute = true) :
    (Utf8.decodeLossy home.bytes).head? = some '/' := by
  rw [Path.isAbsolute, decide_eq_true_eq] at h
  obtain ⟨bytes, hbytes⟩ := List.head?_eq_some_iff.1 h
  rw [hbytes, Utf8.decodeLossy, Utf8.pieces_cons_of_lt (by decide)]
  rfl

theorem expandHome_expandHome (h : home.isAbsolute = true) (text : List Char) :
    expandHome (some home) (expandHome (some home) text) = expandHome (some home) text := by
  by_cases htilde : text = ['~']
  · subst htilde
    exact expandHome_of_head? _ (head?_decodeLossy h)
  by_cases hslash : ['~', '/'] <+: text
  · obtain ⟨rest, rfl⟩ := hslash
    exact expandHome_of_head? _ (head?_trimEnd_append (head?_decodeLossy h) rest)
  · rw [expandHome_of_not_tilde _ htilde hslash, expandHome_of_not_tilde _ htilde hslash]

/-- A tilde alone is the text of the home directory, and in front of a separator it makes the text a
path that is seen from there, whatever separators the home directory ends in and also when it is the
root. Every other text stays, and so does every text without a home directory. Under an absolute
home directory nothing is left to expand. -/
theorem expandHome_denotes_join :
    (∀ (home : Path) (h : String), home.string? = some h → h ≠ "" →
      (∀ rest : String, rest.toList.head? ≠ some '/' →
        (Path.ofString (String.ofList (expandHome (some home) ("~/" ++ rest).toList))).same
          (home.join (.ofString rest)) = true) ∧
      expandHome (some home) ['~'] = h.toList) ∧
    (∀ (home : Option Path) (text : List Char), text ≠ ['~'] → ¬ ['~', '/'] <+: text →
      expandHome home text = text) ∧
    (∀ text : List Char, expandHome none text = text) ∧
    ∀ home : Path, home.isAbsolute = true → ∀ text : List Char,
      expandHome (some home) (expandHome (some home) text) = expandHome (some home) text := by
  refine ⟨fun home h hhome hne => ⟨fun rest hrest => ?_, expandHome_tilde hhome⟩, ?_,
    expandHome_none, fun home h text => expandHome_expandHome h text⟩
  · exact same_expandHome hhome hne hrest
  · intro home text htilde hslash
    exact expandHome_of_not_tilde home htilde hslash

/-- The root, spelled with two separators, as the home directory. -/
theorem expandHome_denotes_join_root :
    let root := Path.ofString "//"
    expandHome (some root) ['~'] = ['/', '/'] ∧
      expandHome (some root) "~/a//..".toList = "/a//..".toList ∧
      (Path.ofString "/a//..").same (root.join (.ofString "a//..")) = true ∧
      expandHome (some root) "~a/".toList = "~a/".toList ∧
      expandHome (some root) (expandHome (some root) "~/~/".toList) = "/~/".toList := by
  intro root
  obtain ⟨hhome, hother, -, htwice⟩ := expandHome_denotes_join
  have hroot : root.string? = some "//" := by decide
  obtain ⟨hbelow, htilde⟩ := hhome root "//" hroot (by decide)
  refine ⟨htilde, by decide, ?_, hother (some root) _ (by decide) (by decide), ?_⟩
  · exact hbelow "a//.." (by decide)
  · exact (htwice root (by decide) _).trans (by decide)

end Template

end BusLocator
