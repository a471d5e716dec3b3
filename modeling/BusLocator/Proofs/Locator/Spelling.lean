import BusLocator.Proofs.Path.Tidy
import BusLocator.Proofs.Search.Candidates
import BusLocator.Proofs.Session.Memory
/-!
# How the known paths are spelled

Whatever the spelling of the anchor, of the descriptor's paths and of the search path, a candidate is
made of located paths, and locating ends in the normal spelling. So every path that a locator keeps is
tidy, and comes from the root if there was a working directory when it searched.

A locator may be asked in other surroundings each time. A session is the case in which only the files
change.
-/

namespace BusLocator

namespace Path

variable {workingDir : Option Path}

theorem isTidy_normalizeFrom (p : Path) : (normalizeFrom workingDir p).IsTidy := by
  unfold normalizeFrom
  split
  · exact isTidy_normalize p
  · cases workingDir with
    | none => exact isTidy_normalize p
    | some dir => exact isTidy_normalize (dir.join p)

end Path

def Installation.paths (i : Installation) : List Path :=
  [i.binaryDir, i.libraryDir]

def Resolution.paths (found : Resolution) : List Path :=
  found.installation.paths ++ found.attempts.flatMap (·.candidate.paths)

namespace Search

variable {host : Host} {platform : Platform} {anchor : Option Path}

theorem exists_located_of_mem {c : Candidate} (hc : c ∈ candidates host platform anchor) :
    ∃ source binaryDir libraryDir, c = .located host source binaryDir libraryDir := by
  have hsearchPath (hc : c ∈ onSearchPath host platform) :
      ∃ source binaryDir libraryDir, c = .located host source binaryDir libraryDir := by
    cases platform with
    | posix => exact absurd hc List.not_mem_nil
    | windows =>
        obtain ⟨entry, -, rfl⟩ := List.mem_map.1 hc
        exact ⟨_, _, _, rfl⟩
  cases anchor with
  | none => exact hsearchPath hc
  | some anchor =>
      simp only [candidates, List.mem_append, List.mem_cons] at hc
      rcases hc with (hc | rfl | hc) | hc
      · obtain ⟨paths, -, rfl⟩ := List.mem_map.1 hc
        exact ⟨_, _, _, rfl⟩
      · exact ⟨_, _, _, rfl⟩
      · cases platform with
        | posix =>
            obtain rfl := List.mem_singleton.1 hc
            exact ⟨_, _, _, rfl⟩
        | windows =>
            rcases List.mem_cons.1 hc with rfl | hc
            · exact ⟨_, _, _, rfl⟩
            · obtain rfl := List.mem_singleton.1 hc
              exact ⟨_, _, _, rfl⟩
      · exact hsearchPath hc

theorem exists_locate_of_mem_paths {found : Resolution}
    (hfound : run host platform anchor = some found) {p : Path} (hp : p ∈ found.paths) :
    ∃ q, p = host.locate q := by
  obtain ⟨before, c, after, hlist, -, -, rfl⟩ :=
    (run_eq_some_iff host platform anchor found).1 hfound
  have hkept : ∃ d ∈ candidates host platform anchor, p ∈ d.installation.paths := by
    rw [hlist]
    rcases List.mem_append.1 hp with hp | hp
    · exact ⟨c, by simp, hp⟩
    · obtain ⟨attempt, hattempt, hpath⟩ := List.mem_flatMap.1 hp
      obtain ⟨d, hd, rfl⟩ := List.mem_map.1 hattempt
      refine ⟨d, ?_, hpath⟩
      rcases List.mem_append.1 hd with hd | hd
      · exact List.mem_append_left _ hd
      · rw [List.mem_singleton.1 hd]
        simp
  obtain ⟨d, hd, hpath⟩ := hkept
  obtain ⟨source, binaryDir, libraryDir, rfl⟩ := exists_located_of_mem hd
  rcases List.mem_cons.1 hpath with rfl | hpath
  · exact ⟨binaryDir, rfl⟩
  · exact ⟨libraryDir, List.mem_singleton.1 hpath⟩

end Search

namespace Locator

/-- The locator after some requests, each put to it in surroundings of its own. -/
def through (locator : Locator) (moments : List (Host × Request)) : Locator :=
  moments.foldl (fun locator moment => (locator.answer moment.1 moment.2).locator) locator

variable {locator : Locator} {found : Resolution}

/-- What is known by now was known from the start or found at some moment on the way. -/
theorem origin_of_known_through {moments : List (Host × Request)}
    (h : (locator.through moments).known = some found) :
    locator.known = some found ∨
      ∃ early host request late, moments = early ++ (host, request) :: late ∧
        (locator.through early).known = none ∧
        (locator.through early).search host = some found := by
  induction moments generalizing locator with
  | nil => exact .inl h
  | cons moment moments ih =>
      rcases ih h with hknown | ⟨early, host, request, late, rfl, hunknown, hsearch⟩
      · rcases known_of_answer moment.1 hknown with hknown | ⟨hunknown, hsearch⟩
        · exact .inl hknown
        · exact .inr ⟨[], moment.1, moment.2, moments, rfl, hunknown, hsearch⟩
      · exact .inr ⟨moment :: early, host, request, late, rfl, hunknown, hsearch⟩

end Locator

namespace Session

def moments (host : Host) (session : Session) : List SessionStep → List (Host × Request)
  | [] => []
  | .ask request :: steps =>
    (session.surroundings host, request) ::
      (session.step host (.ask request)).2.moments host steps
  | .alter change :: steps => (session.step host (.alter change)).2.moments host steps

theorem locator_after_eq_through (host : Host) (session : Session) (steps : List SessionStep) :
    (session.after host steps).locator = session.locator.through (session.moments host steps) := by
  induction steps generalizing session with
  | nil => rfl
  | cons s steps ih =>
      rw [after_cons, ih]
      cases s <;> rfl

theorem workingDir_of_mem_moments {host : Host} {session : Session} {steps : List SessionStep}
    {moment : Host × Request} (h : moment ∈ session.moments host steps) :
    moment.1.workingDir = host.workingDir := by
  induction steps generalizing session with
  | nil => contradiction
  | cons s steps ih =>
      cases s with
      | alter change => exact ih h
      | ask request =>
          rcases List.mem_cons.1 h with rfl | h
          · rfl
          · exact ih h

end Session

namespace Locator

/-- Whatever happened to a locator, the installation it knows and all that was tried to find it are
spelled tidily: not empty and in normal spelling. If there was a working directory at the moment of
the search, all of it comes from the root and has no way back. A working directory is an absolute
path. -/
theorem paths_of_known_isTidy (settings : Settings) (moments : List (Host × Request))
    (found : Resolution) (hknown : ((Locator.new settings).through moments).known = some found) :
    ∃ early host request late, moments = early ++ (host, request) :: late ∧
      ((Locator.new settings).through early).known = none ∧
      ((Locator.new settings).through early).search host = some found ∧
      ∀ p ∈ found.paths, p.IsTidy ∧
        ∀ dir ∈ host.workingDir, dir.isAbsolute = true →
          p.isAbsolute = true ∧ [Path.dot, Path.dot] ∉ p.parts := by
  rcases origin_of_known_through hknown with hstart | ⟨early, host, request, late, hmoments,
    hunknown, hsearch⟩
  · contradiction
  · refine ⟨early, host, request, late, hmoments, hunknown, hsearch, ?_⟩
    intro p hp
    obtain ⟨q, rfl⟩ := Search.exists_locate_of_mem_paths hsearch hp
    have htidy : (host.locate q).IsTidy := Path.isTidy_normalizeFrom q
    refine ⟨htidy, ?_⟩
    intro dir hdir habsolute
    have hlocated : (host.locate q).isAbsolute = true := by
      rw [Host.locate, Option.mem_def.1 hdir]
      exact Path.isAbsolute_normalizeFrom habsolute q
    exact ⟨hlocated, htidy.up_notMem hlocated⟩

/-- In a session that starts before anything is installed, an anchor that is written with detours gives
tidy paths. -/
theorem paths_of_known_isTidy_roundabout :
    let host : Host := ⟨⟨[]⟩, none, some (.ofString "/w"), none, FileTree.empty.asWritten⟩
    let settings : Settings := ⟨some (.ofString "ib/.//x/../bin/"), .posix, false⟩
    let steps : List SessionStep :=
      [.ask .binaryDir, .alter (.addFile (.ofString "/w/ib/lib/libIntegrationBus.so") []),
        .alter (.addDirectory (.ofString "/w/ib/bin")), .ask .libraryDir]
    ∃ found, ((⟨.new settings, .empty⟩ : Session).after host steps).locator.known = some found ∧
      found.paths = [.ofString "/w/ib/bin", .ofString "/w/ib/lib", .ofString "/w/ib/bin",
        .ofString "/w/ib/lib"] ∧
      ∀ p ∈ found.paths, p.IsTidy ∧ p.isAbsolute = true := by
  intro host settings steps
  let found : Resolution := ⟨⟨.ofString "/w/ib/bin", .ofString "/w/ib/lib"⟩, .localLayout,
    [⟨.localLayout, ⟨.ofString "/w/ib/bin", .ofString "/w/ib/lib"⟩, .complete⟩]⟩
  have hknown : ((⟨.new settings, .empty⟩ : Session).after host steps).locator.known =
      some found := by
    decide +kernel
  refine ⟨found, hknown, rfl, ?_⟩
  rw [Session.locator_after_eq_through] at hknown
  obtain ⟨early, moment, request, late, hmoments, -, -, htidy⟩ :=
    paths_of_known_isTidy settings _ found hknown
  have hmem : (moment, request) ∈ (⟨.new settings, .empty⟩ : Session).moments host steps := by
    rw [hmoments]
    simp
  have hdir : moment.workingDir = some (.ofString "/w") :=
    Session.workingDir_of_mem_moments hmem
  intro p hp
  obtain ⟨hspelled, habsolute⟩ := htidy p hp
  exact ⟨hspelled, (habsolute _ hdir (by decide)).1⟩

end Locator

end BusLocator
