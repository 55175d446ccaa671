import PresentRelay.Daemon

/-!
# Runs of a daemon

A run is a list of steps on a daemon: the notices that it gets, and what happens to
its collaborators between them.
-/

set_option autoImplicit false

namespace PresentRelay

namespace Daemon

variable {β : Type}

inductive Step (β : Type) where
  | power (notice : Power)
  | frame (exported : Export)
  /-- One more validation is going to ask for changes, or not to. -/
  | expectValidation (changes : Bool)
  | refuseImports (refused : Bool)
  | loseFiles (unreadable : File → Option ReadFault)
  | refuseRequest (request : CompositorRequest) (refused : Bool)
  | backlight (change : β → β)
  | shutdown

/-- What a step did: the daemon after it, what became of a frame, and the warnings. -/
structure Stepped (β : Type) where
  daemon : Daemon β
  outcome : Option Outcome
  warnings : List Warning

def quietly (daemon : Daemon β) : Stepped β := ⟨daemon, none, []⟩

def step [Backlight β] (daemon : Daemon β) : Step β → Stepped β
  | .power notice =>
    let (daemon, warnings) := daemon.handlePower notice
    ⟨daemon, none, warnings⟩
  | .frame exported =>
    let (daemon, outcome, warnings) := daemon.presentExport exported
    ⟨daemon, some outcome, warnings⟩
  | .expectValidation changes =>
    quietly { daemon with compositor.upcoming := daemon.compositor.upcoming ++ [changes] }
  | .refuseImports refused => quietly { daemon with allocator.refusesImports := refused }
  | .loseFiles unreadable => quietly { daemon with unreadable }
  | .refuseRequest request refused =>
    quietly { daemon with compositor := daemon.compositor.setRefused request refused }
  | .backlight change =>
    quietly { daemon with policy.backlight := daemon.policy.backlight.map change }
  | .shutdown => quietly daemon.shutdown

def steps [Backlight β] (daemon : Daemon β) (run : List (Step β)) : Daemon β :=
  run.foldl (fun daemon step => (daemon.step step).daemon) daemon

end Daemon

end PresentRelay
