import PresentRelay.Daemon.Allocator

/-!
# Compositors

A compositor shows the buffer bound to its layer.  Before it presents, it may have
to validate the layer, and a validation can ask for changes that must be accepted.
The compositor keeps a record of what it was asked, and can be told to refuse; what
it refuses leaves no trace.
-/

set_option autoImplicit false

namespace PresentRelay

inductive DisplayPower where
  | off
  | on
  deriving DecidableEq, Repr

def DisplayPower.title : DisplayPower → String
  | .off => "Off"
  | .on => "On"

inductive CompositorRequest where
  | display
  | bind
  | validate
  | accept
  | present
  | power
  deriving DecidableEq, Repr

def CompositorRequest.name : CompositorRequest → String
  | .display => "active_config"
  | .bind => "bind"
  | .validate => "validate"
  | .accept => "accept"
  | .present => "present"
  | .power => "power_mode"

def CompositorRequest.all : List CompositorRequest :=
  [.display, .bind, .validate, .accept, .present, .power]

def CompositorRequest.ofName? (name : String) : Option CompositorRequest :=
  all.find? fun request => request.name == name

structure Compositor where
  display : Display
  bound : Option Serial
  /-- Whether the next validations ask for changes; those after them do not. -/
  upcoming : List Bool
  refused : List CompositorRequest
  binds : List Serial
  validates : Nat
  accepts : Nat
  /-- The buffer bound at each present. -/
  presents : List Serial
  powers : List DisplayPower
  deriving DecidableEq, Repr

namespace Compositor

def new (display : Display) : Compositor := ⟨display, none, [], [], [], 0, 0, [], []⟩

def allow {α : Type} (compositor : Compositor) (request : CompositorRequest)
    (answer : Except Failure α) : Except Failure α :=
  if request ∈ compositor.refused then .error (.bare (request.name ++ " refused")) else answer

def setRefused (compositor : Compositor) (request : CompositorRequest) (refused : Bool) :
    Compositor :=
  let others := compositor.refused.filter (· ≠ request)
  { compositor with refused := if refused then request :: others else others }

def activeDisplay (compositor : Compositor) : Except Failure Display :=
  compositor.allow .display (.ok compositor.display)

def bind (compositor : Compositor) (serial : Serial) : Except Failure Compositor :=
  compositor.allow .bind
    (.ok { compositor with bound := some serial, binds := compositor.binds ++ [serial] })

def validate (compositor : Compositor) : Except Failure (Compositor × Bool) :=
  compositor.allow .validate
    (.ok ({ compositor with
        upcoming := compositor.upcoming.tail
        validates := compositor.validates + 1 }, compositor.upcoming.headD false))

def accept (compositor : Compositor) : Except Failure Compositor :=
  compositor.allow .accept (.ok { compositor with accepts := compositor.accepts + 1 })

def present (compositor : Compositor) : Except Failure Compositor :=
  compositor.allow .present <|
    match compositor.bound with
    | some serial => .ok { compositor with presents := compositor.presents ++ [serial] }
    | none => .error (.bare "present without a layer buffer")

def setPower (compositor : Compositor) (power : DisplayPower) : Except Failure Compositor :=
  compositor.allow .power (.ok { compositor with powers := compositor.powers ++ [power] })

theorem allow_eq_ok {α : Type} {compositor : Compositor} {request : CompositorRequest}
    {answer : Except Failure α} {value : α} :
    compositor.allow request answer = .ok value ↔
      request ∉ compositor.refused ∧ answer = .ok value := by
  unfold allow
  split
  · next refused => simp [refused]
  · next allowed => simp [allowed]

end Compositor

end PresentRelay
