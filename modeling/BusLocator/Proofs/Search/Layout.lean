import BusLocator.FileTree
import BusLocator.Proofs.Path.Joining
import BusLocator.Proofs.Search.Candidates
/-!
# Where the layouts lie

Two of the sources propose directories around the anchor: some levels up from it, and down again
through fixed names. Following such a way from a location below the root takes names away from its
end, as long as there are any, and adds others (`walk_climb`). So all that counts of an anchor is
where it lies, and however near the root that is, no candidate lies above it.
-/

namespace BusLocator

def Path.rooted (names : List Bytes) : Path :=
  ⟨slash :: [slash].intercalate names⟩

/-- The names that are left some levels up, none at the root, and others below them. -/
def climb (names : List Bytes) (levels : Nat) (down : List String) : List Bytes :=
  names.take (names.length - levels) ++ down.map Utf8.ofString

def IsWord (word : String) : Prop :=
  (Component.name (Utf8.ofString word)).IsStep

instance (word : String) : Decidable (IsWord word) :=
  inferInstanceAs (Decidable (Path.slash ∉ Utf8.ofString word ∧ Utf8.ofString word ≠ [] ∧
    Utf8.ofString word ≠ [Path.dot] ∧ Utf8.ofString word ≠ [Path.dot, Path.dot]))

namespace Location

/-! ### Ways up and down -/

def walk (l : Location) (way : List String) : Location :=
  way.foldl (fun l word => l.follow (.ofString word)) l

theorem follow_below (l : Location) (p : Path) (way : List String) :
    l.follow (p.below way) = (l.follow p).walk way := by
  induction way generalizing p with
  | nil => rfl
  | cons word way ih =>
      refine (ih (p.join (.ofString word))).trans ?_
      rw [follow_join]
      rfl

theorem follow_up (names : List Bytes) :
    (⟨.root, names⟩ : Location).follow (.ofString "..") = ⟨.root, names.dropLast⟩ := by
  change ascend _ = _
  cases names <;> rfl

theorem follow_word {word : String} (h : IsWord word) (l : Location) :
    l.follow (.ofString word) = ⟨l.base, l.names ++ [Utf8.ofString word]⟩ := by
  have hrelative : (Path.ofString word).isAbsolute = false := Path.isAbsolute_of_isStep h
  have hparts : (Path.ofString word).parts = [Utf8.ofString word] := Path.parts_of_isStep h
  rw [follow, hparts, hrelative]
  exact enter_of_isStep h l

theorem walk_up (levels : Nat) (names : List Bytes) :
    (⟨.root, names⟩ : Location).walk (List.replicate levels "..") =
      ⟨.root, names.take (names.length - levels)⟩ := by
  induction levels generalizing names with
  | zero =>
      rw [Nat.sub_zero, List.take_length]
      rfl
  | succ levels ih =>
      have hshorter : names.length - 1 - levels = names.length - (levels + 1) := by omega
      rw [List.replicate_succ, walk, List.foldl_cons, follow_up]
      refine (ih names.dropLast).trans ?_
      rw [List.length_dropLast, List.dropLast_eq_take, List.take_take,
        Nat.min_eq_left (Nat.sub_le ..), hshorter]

theorem walk_words {words : List String} (h : ∀ word ∈ words, IsWord word) (l : Location) :
    l.walk words = ⟨l.base, l.names ++ words.map Utf8.ofString⟩ := by
  induction words generalizing l with
  | nil => rw [walk, List.map_nil, List.append_nil, List.foldl_nil]
  | cons word words ih =>
      rw [walk, List.foldl_cons, follow_word (h word List.mem_cons_self)]
      refine (ih (fun other hother => h other (List.mem_cons_of_mem word hother)) _).trans ?_
      rw [List.append_assoc]
      rfl

theorem walk_climb {down : List String} (h : ∀ word ∈ down, IsWord word) (levels : Nat)
    (names : List Bytes) :
    (⟨.root, names⟩ : Location).walk (List.replicate levels ".." ++ down) =
      ⟨.root, climb names levels down⟩ := by
  rw [walk, List.foldl_append]
  exact (congrArg (walk · down) (walk_up levels names)).trans (walk_words h _)

end Location

namespace Search

variable {host : Host} {anchor : Path} {names : List Bytes}

def deploymentNames (names : List Bytes) (variant : Deployment) (last : String) : List Bytes :=
  match variant with
  | .posix => climb names 4 [last]
  | .release => climb names 2 ["Release", last]
  | .debug => climb names 2 ["Debug", last]

def attemptAt (host : Host) (platform : Platform) (source : Source)
    (binaryNames libraryNames : List Bytes) : Attempt :=
  let candidate : Installation := ⟨.rooted binaryNames, .rooted libraryNames⟩
  ⟨source, candidate, check host platform candidate⟩

theorem exists_follow_eq_root {dir : Path} (hworking : host.workingDir = some dir)
    (hdir : dir.isAbsolute = true) (p : Path) :
    ∃ names : List Bytes, (∀ name ∈ names, (Component.name name).IsStep) ∧
      (Location.ofWorkingDir host.workingDir).follow p = ⟨.root, names⟩ := by
  have habsolute : (Path.normalizeFrom host.workingDir p).isAbsolute = true := by
    rw [hworking]
    exact Path.isAbsolute_normalizeFrom hdir p
  rw [← Path.location_normalizeFrom]
  exact ⟨_, Path.isPlain_location _,
    congrArg (Location.mk · _) ((Path.base_location_eq_root_iff _).2 habsolute)⟩

/-! ### An anchor below the root -/

section Below

variable (h : (Location.ofWorkingDir host.workingDir).follow anchor = ⟨.root, names⟩)

include h

theorem locate_of_follow : host.locate anchor = .rooted names := by
  rw [Host.locate, Path.normalizeFrom_eq_path, h]
  rfl

theorem locate_below {down : List String} (levels : Nat) (hdown : ∀ word ∈ down, IsWord word) :
    host.locate (anchor.below (List.replicate levels ".." ++ down)) =
      .rooted (climb names levels down) := by
  apply locate_of_follow
  rw [Location.follow_below, h, Location.walk_climb hdown]

theorem locate_deployment {last : String} (variant : Deployment) (hlast : IsWord last) :
    host.locate ((deploymentRoot anchor variant).below [last]) =
      .rooted (deploymentNames names variant last) := by
  have hbehind (first : String) (hfirst : IsWord first) : ∀ word ∈ [first, last], IsWord word := by
    simp [hfirst, hlast]
  cases variant with
  | posix =>
      have hdown : ∀ word ∈ [last], IsWord word := by simp [hlast]
      exact locate_below h 4 hdown
  | release => exact locate_below h 2 (hbehind "Release" (by decide))
  | debug => exact locate_below h 2 (hbehind "Debug" (by decide))

theorem fromAnchor_of_follow (platform : Platform) :
    fromAnchor host platform anchor =
      [attemptAt host platform .localLayout names (climb names 1 ["lib"])] := by
  have hlibrary : host.locate (anchor.below ["..", "lib"]) = .rooted (climb names 1 ["lib"]) :=
    locate_below h 1 (by decide)
  rw [fromAnchor, attempt, locate_of_follow h, hlibrary]
  rfl

theorem atDeployment_of_follow (platform : Platform) (variant : Deployment) :
    atDeployment host platform anchor variant =
      attemptAt host platform (.deployment variant) (deploymentNames names variant "bin")
        (deploymentNames names variant "lib") := by
  rw [atDeployment, attempt, locate_deployment h variant (by decide),
    locate_deployment h variant (by decide)]
  rfl

theorem fromDeployment_of_follow (platform : Platform) :
    fromDeployment host platform anchor = untilSuccess ((deployments platform).map fun variant =>
      attemptAt host platform (.deployment variant) (deploymentNames names variant "bin")
        (deploymentNames names variant "lib")) := by
  rw [fromDeployment]
  exact congrArg untilSuccess (List.map_congr_left fun variant _ =>
    atDeployment_of_follow h platform variant)

end Below

theorem follow_eq_of_locate_eq {other : Path} (h : host.locate other = host.locate anchor) :
    (Location.ofWorkingDir host.workingDir).follow other =
      (Location.ofWorkingDir host.workingDir).follow anchor := by
  rw [← Path.location_normalizeFrom, ← Path.location_normalizeFrom]
  exact congrArg Path.location h

/-- Around an anchor that lies, however it is spelled, at some names below the root, the candidates
are these: the anchor with the library directory one level up, and the deployed directories four
levels up, or two levels up in `Release` and, only if that failed, in `Debug`. Where there are not
as many levels they lie at the root. Anchors in one place have the same candidates. -/
theorem candidates_around_anchor {dir : Path} (hworking : host.workingDir = some dir)
    (hdir : dir.isAbsolute = true) (anchor : Path) :
    ∃ names : List Bytes, (∀ name ∈ names, (Component.name name).IsStep) ∧
      host.locate anchor = .rooted names ∧
      (∀ platform, fromAnchor host platform anchor =
        [attemptAt host platform .localLayout names (climb names 1 ["lib"])]) ∧
      fromDeployment host .posix anchor =
        [attemptAt host .posix (.deployment .posix) (climb names 4 ["bin"])
          (climb names 4 ["lib"])] ∧
      (let release := attemptAt host .windows (.deployment .release)
          (climb names 2 ["Release", "bin"]) (climb names 2 ["Release", "lib"])
        let debug := attemptAt host .windows (.deployment .debug)
          (climb names 2 ["Debug", "bin"]) (climb names 2 ["Debug", "lib"])
        fromDeployment host .windows anchor =
          if release.outcome.isSuccess then [release] else [release, debug]) ∧
      ∀ other, host.locate other = host.locate anchor → ∀ platform,
        fromAnchor host platform other = fromAnchor host platform anchor ∧
          fromDeployment host platform other = fromDeployment host platform anchor := by
  obtain ⟨names, hnames, hfollow⟩ := exists_follow_eq_root hworking hdir anchor
  refine ⟨names, hnames, locate_of_follow hfollow, fromAnchor_of_follow hfollow, ?_, ?_, ?_⟩
  · rw [fromDeployment_of_follow hfollow]
    exact untilSuccess_of_length_le_one (Nat.le_refl 1)
  · intro release debug
    have hlast : untilSuccess [debug] = [debug] := untilSuccess_of_length_le_one (Nat.le_refl 1)
    rw [fromDeployment_of_follow hfollow]
    change untilSuccess [release, debug] = _
    rw [untilSuccess, hlast]
  · intro other hother platform
    have hsame := (follow_eq_of_locate_eq hother).trans hfollow
    rw [fromAnchor_of_follow hsame, fromAnchor_of_follow hfollow, fromDeployment_of_follow hsame,
      fromDeployment_of_follow hfollow]
    exact ⟨rfl, rfl⟩

/-- An anchor three levels below the root, where nothing is installed. -/
theorem candidates_around_anchor_near_root :
    let host : Host := ⟨⟨[]⟩, none, some (.ofString "/w"), none, FileTree.empty.asWritten⟩
    let anchor := Path.ofString "ib/.//x/../bin/"
    host.workingDir = some (.ofString "/w") ∧ (Path.ofString "/w").isAbsolute = true ∧
      (fromAnchor host .posix anchor).map (·.candidate) =
        [⟨.ofString "/w/ib/bin", .ofString "/w/ib/lib"⟩] ∧
      (fromDeployment host .posix anchor).map (·.candidate) =
        [⟨.ofString "/bin", .ofString "/lib"⟩] ∧
      (fromDeployment host .windows anchor).map (·.candidate) =
        [⟨.ofString "/w/Release/bin", .ofString "/w/Release/lib"⟩,
          ⟨.ofString "/w/Debug/bin", .ofString "/w/Debug/lib"⟩] := by
  intro host anchor
  obtain ⟨names, hplain, hlocate, hlocal, hposix, hwindows, -⟩ :=
    candidates_around_anchor (rfl : host.workingDir = _) (by decide) anchor
  have hnames : names = ["w", "ib", "bin"].map Utf8.ofString := by
    have hlocation : (host.locate anchor).location = ⟨.root, names⟩ := by
      rw [hlocate]
      exact Path.location_path_root hplain
    exact (congrArg Location.names hlocation).symm.trans (by decide)
  subst hnames
  refine ⟨rfl, by decide, ?_, ?_, ?_⟩
  · rw [hlocal]
    decide
  · rw [hposix]
    decide
  · rw [hwindows]
    decide

end Search

end BusLocator
