/-! The power operations both programs name in the same way. -/
namespace PcRemote

inductive PowerAction
  | reboot
  | shutdown
  | sleep
  deriving DecidableEq, Repr

namespace PowerAction

def all : List PowerAction := [.reboot, .shutdown, .sleep]

def slug : PowerAction → String
  | .reboot => "reboot"
  | .shutdown => "shutdown"
  | .sleep => "sleep"

/-- The HTTP path, which is part of what a request signature covers. -/
def path : PowerAction → String
  | .reboot => "/reboot"
  | .shutdown => "/shutdown"
  | .sleep => "/sleep"

def fromSlug (slug : String) : Option PowerAction := all.find? fun a => a.slug == slug

def fromPath (path : String) : Option PowerAction := all.find? fun a => a.path == path

theorem path_eq (a : PowerAction) : a.path = "/" ++ a.slug := by
  cases a <;> decide

theorem mem_all (a : PowerAction) : a ∈ all := by
  cases a <;> decide

theorem path_injective : Function.Injective path := by
  intro a b h
  cases a <;> cases b <;> first | rfl | exact absurd h (by decide)

theorem fromSlug_slug (a : PowerAction) : fromSlug a.slug = some a := by
  cases a <;> decide

theorem fromPath_path (a : PowerAction) : fromPath a.path = some a := by
  cases a <;> decide

end PowerAction

end PcRemote
