import Testbed.Text.Quoted

/-!
# What to do with a lab

A lab can be created. Taking it down again is known as a wish and not supported,
so asking for it is another mistake than asking for something unheard of.
-/

namespace Testbed

inductive OperatingMode where
  | create
  | destroy
  deriving DecidableEq

inductive ModeError where
  | unknown (text : String)
  | unsupported (mode : OperatingMode)
  deriving DecidableEq

namespace OperatingMode

def name : OperatingMode → String
  | create => "create"
  | destroy => "destroy"

def parse (text : String) : Except ModeError OperatingMode :=
  if text = create.name then .ok create
  else if text = destroy.name then .ok destroy
  else .error (.unknown text)

theorem parse_name (mode : OperatingMode) : parse mode.name = .ok mode := by
  cases mode <;> rfl

end OperatingMode

def ModeError.message : ModeError → String
  | unknown text => s!"Unknown mode: {Text.quoted text} (expected `create` or `destroy`)"
  | unsupported mode => s!"Mode {mode.name} is not supported"

end Testbed
