import PresentRelay.Error

/-!
# Failures with context, and warnings

A failure deep inside an activity is reported with what was being done: the
outermost context first, the cause last.  An operation that goes on in spite of
something amiss says so with a warning.
-/

set_option autoImplicit false

namespace PresentRelay

/-- What was being done, outermost first, down to the cause. -/
structure Failure where
  outer : String
  causes : List String
  deriving DecidableEq, Repr

namespace Failure

def bare (text : String) : Failure := ⟨text, []⟩

def ofRelay (error : RelayError) : Failure := bare error.message

def during (failure : Failure) (activity : String) : Failure :=
  ⟨activity, failure.outer :: failure.causes⟩

def message (failure : Failure) : String := ": ".intercalate (failure.outer :: failure.causes)

def indented (opening margin cause : String) : String :=
  opening ++ ("\n" ++ margin).intercalate (cause.splitOn "\n")

def column (n : Nat) : String :=
  let digits := toString n
  String.ofList (List.replicate (5 - digits.length) ' ') ++ digits

/-- The chain over several lines; more than one cause are numbered. -/
def report (failure : Failure) : String :=
  match failure.causes with
  | [] => failure.outer
  | [cause] => failure.outer ++ "\n\nCaused by:\n" ++ indented "    " "    " cause
  | causes =>
    failure.outer ++ "\n\nCaused by:" ++
      String.join (causes.zipIdx.map fun (cause, n) =>
        "\n" ++ indented (column n ++ ": ") "       " cause)

end Failure

def IoFault.during (fault : IoFault) (activity : String) : Failure :=
  (Failure.bare fault.message).during activity

inductive Warning where
  | zeroRefresh
  | mintFailed (fault : IoFault) (id : UInt32) (position : Nat)
  | importFailed (failure : Failure) (id : UInt32)
  | presentFailed (failure : Failure) (id : UInt32)
  | powerModeFailed (mode : String) (failure : Failure)
  | backlightUnread (failure : Failure)
  | backlightUndimmed (failure : Failure)
  | backlightUnrestored (failure : Failure)
  | backlightUnavailable (failure : Failure)
  | sessionEnded (error : RelayError)
  deriving DecidableEq, Repr

namespace Warning

def message : Warning → String
  | .zeroRefresh => "refresh rate of 0 Hz, using 60"
  | .mintFailed fault _ _ => "failed to mint export handle: " ++ fault.message
  | .importFailed failure _ => "dropping frame, import failed: " ++ failure.report
  | .presentFailed failure _ => "dropping frame, present failed: " ++ failure.report
  | .powerModeFailed mode failure => "error setting power mode " ++ mode ++ ": " ++ failure.report
  | .backlightUnread failure => "error reading backlight: " ++ failure.report
  | .backlightUndimmed failure => "error dimming backlight: " ++ failure.report
  | .backlightUnrestored failure => "error restoring backlight: " ++ failure.report
  | .backlightUnavailable failure => "backlight unavailable: " ++ failure.report
  | .sessionEnded error => "relay session ended: " ++ error.message

def fields : Warning → List (String × Nat)
  | .mintFailed _ id position => [("id", id.toNat), ("position", position)]
  | .importFailed _ id => [("id", id.toNat)]
  | .presentFailed _ id => [("id", id.toNat)]
  | _ => []

end Warning

def refreshWarnings (hz : UInt32) : List Warning := if hz = 0 then [.zeroRefresh] else []

end PresentRelay
