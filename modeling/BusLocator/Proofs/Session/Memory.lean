import BusLocator.Proofs.Locator.Answer
/-!
# What a session remembers

Between two requests to forget there is one search that counts, the first that succeeds. What
happens to the files afterwards shows only in the answer to whether the installation is still there.

Each kind of step has one law, read off the outcomes of `Locator.answer`. What a whole run remembers
follows from the laws by induction over its steps.
-/

namespace BusLocator

namespace Session

variable (host : Host) {session : Session} {found : Resolution}

def surroundings (session : Session) : Host :=
  { host with files := session.tree.asWritten }

def search (session : Session) : Option Resolution :=
  session.locator.search (session.surroundings host)

def after (session : Session) (steps : List SessionStep) : Session :=
  (session.run host steps).2

@[simp] theorem after_nil (session : Session) : session.after host [] = session :=
  rfl

@[simp] theorem after_cons (session : Session) (s : SessionStep) (steps : List SessionStep) :
    session.after host (s :: steps) = (session.step host s).2.after host steps :=
  rfl

theorem step_ask (session : Session) (request : Request) :
    session.step host (.ask request) =
      (((session.locator.answer (session.surroundings host) request).answer,
        (session.locator.answer (session.surroundings host) request).said),
       { session with
          locator := (session.locator.answer (session.surroundings host) request).locator }) :=
  rfl

theorem settings_step (session : Session) (s : SessionStep) :
    (session.step host s).2.locator.settings = session.locator.settings := by
  cases s with
  | alter change => rfl
  | ask request => exact Locator.settings_answer _ session.locator request

/-! ### Runs -/

end Session

end BusLocator
