/-!
# Power states

The relay is in one of three power states.  Two of them are states of the
screen; the third says that the producer side went away, so that buffers the
consumer still holds can no longer be trusted.
-/

set_option autoImplicit false

namespace PresentRelay

inductive Power where
  | off
  | on
  /-- The last producer closed; the screen itself is left alone. -/
  | noConsumer
  deriving DecidableEq, Repr

namespace Power

def toRaw : Power → UInt32
  | .off => 0
  | .on => 1
  | .noConsumer => 2

def ofRaw? (raw : UInt32) : Option Power :=
  if raw = 0 then some .off
  else if raw = 1 then some .on
  else if raw = 2 then some .noConsumer
  else none

theorem ofRaw?_toRaw (power : Power) : ofRaw? power.toRaw = some power := by
  cases power <;> decide

def name : Power → String
  | .off => "off"
  | .on => "on"
  | .noConsumer => "no_consumer"

def all : List Power := [.off, .on, .noConsumer]

def ofName? (name : String) : Option Power :=
  all.find? fun power => power.name = name

theorem ofName?_name (power : Power) : ofName? power.name = some power := by
  cases power <;> decide

end Power

end PresentRelay
