import PresentRelay.Daemon.Backlight
import PresentRelay.Power

/-!
# The power policy of the daemon

Off turns the display off and dims the backlight; on turns the display on and
restores the level.  What the display already is, is not asked for again.  A
producer that went away only makes cached imports stale.
-/

set_option autoImplicit false

namespace PresentRelay

inductive PowerAction where
  | none
  | displayOff
  | displayOn
  | invalidateCache
  deriving DecidableEq, Repr

structure PowerPolicy (β : Type) where
  backlight : Option β
  /-- Restored where the level was zero when the display went off. -/
  defaultLevel : UInt32
  savedLevel : UInt32
  dimmed : Bool
  displayOn : Bool
  deriving Repr

namespace PowerPolicy

variable {β : Type}

def new (backlight : Option β) (defaultLevel : UInt32) : PowerPolicy β :=
  ⟨backlight, defaultLevel, 0, false, true⟩

variable [Backlight β]

/-- The level to save before dimming; one that cannot be read counts as zero. -/
def levelBefore (backlight : β) : UInt32 × List Warning :=
  match Backlight.level backlight with
  | .ok level => (level, [])
  | .error failure => (0, [.backlightUnread failure])

/-- Saves the level and sets it to zero, unless that was done already. -/
def dim (policy : PowerPolicy β) : PowerPolicy β × List Warning :=
  match policy.dimmed, policy.backlight with
  | false, some backlight =>
    let (savedLevel, unread) := levelBefore backlight
    match Backlight.setLevel backlight 0 with
    | .ok darkened =>
      ({ policy with backlight := some darkened, savedLevel, dimmed := true }, unread)
    | .error failure => ({ policy with savedLevel }, unread ++ [.backlightUndimmed failure])
  | _, _ => (policy, [])

def restoredLevel (policy : PowerPolicy β) : UInt32 :=
  if policy.savedLevel = 0 then policy.defaultLevel else policy.savedLevel

/-- Sets the saved level again after dimming.  Whether or not that succeeds, the
backlight no longer counts as dimmed. -/
def restore (policy : PowerPolicy β) : PowerPolicy β × List Warning :=
  match policy.dimmed, policy.backlight with
  | true, some backlight =>
    match Backlight.setLevel backlight policy.restoredLevel with
    | .ok lit => ({ policy with backlight := some lit, dimmed := false }, [])
    | .error failure => ({ policy with dimmed := false }, [.backlightUnrestored failure])
  | _, _ => (policy, [])

def transition (policy : PowerPolicy β) (notice : Power) :
    PowerPolicy β × PowerAction × List Warning :=
  match notice with
  | .off =>
    if policy.displayOn then
      let (policy, warnings) := { policy with displayOn := false }.dim
      (policy, .displayOff, warnings)
    else (policy, .none, [])
  | .on =>
    if policy.displayOn then (policy, .none, [])
    else
      let (policy, warnings) := { policy with displayOn := true }.restore
      (policy, .displayOn, warnings)
  | .noConsumer => (policy, .invalidateCache, [])

end PowerPolicy

end PresentRelay
