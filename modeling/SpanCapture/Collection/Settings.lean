import SpanCapture.Attribute.Basic

/-! Settings: named values that steer collection. A setting may be a default that was only
registered, or one that somebody wrote; a written one is explicit, even when the value
written is the value it had. -/
namespace SpanCapture

def startsWith (start name : String) : Bool := start.toList.isPrefixOf name.toList

theorem startsWith_iff (start name : String) :
    startsWith start name = true ↔ start.toList <+: name.toList := List.isPrefixOf_iff_prefix

/-- Values by name, and the names written so far. -/
structure Settings where
  values : Attributes := []
  explicit : List String := []
  deriving Repr, Inhabited

namespace Settings

def get? (name : String) (s : Settings) : Option Value := s.values.find? name

def getBool? (name : String) (s : Settings) : Option Bool := s.values.getBool? name

def getInt? (name : String) (s : Settings) : Option Int64 := s.values.getInt? name

/-- Whether somebody wrote a setting, be it the value it had. -/
def isExplicit (name : String) (s : Settings) : Bool := s.explicit.contains name

def under (root : String) (s : Settings) : Attributes :=
  s.values.filter fun entry => startsWith root entry.1

/-- Whether a switch is off whose name has a given start. -/
def anyDisabled (root : String) (s : Settings) : Bool :=
  (s.under root).any fun entry => entry.2.asBool? == some false

/-- Gives a name its value, without making it explicit. -/
def introduce (name : String) (value : Value) (s : Settings) : Settings :=
  { s with values := s.values.insert name value }

def mark (name : String) (s : Settings) : Settings :=
  { s with explicit := if s.explicit.contains name then s.explicit else name :: s.explicit }

def differs (name : String) (value : Value) (s : Settings) : Bool :=
  !Value.sameOption (s.get? name) (some value)

/-- Writes a value. The flag tells whether it is another than before; the name is explicit
either way. -/
def write (name : String) (value : Value) (s : Settings) : Bool × Settings :=
  if s.differs name value then (true, (s.mark name).introduce name value)
  else (false, s.mark name)

@[simp] theorem values_mark (name : String) (s : Settings) : (s.mark name).values = s.values := rfl

@[simp] theorem explicit_introduce (name : String) (value : Value) (s : Settings) :
    (s.introduce name value).explicit = s.explicit := rfl

theorem isExplicit_mark (name : String) (s : Settings) : (s.mark name).isExplicit name = true := by
  unfold mark isExplicit
  by_cases h : name ∈ s.explicit <;> simp [h]

theorem isExplicit_write (name : String) (value : Value) (s : Settings) :
    (s.write name value).2.isExplicit name = true := by
  unfold write
  split
  · exact isExplicit_mark name s
  · exact isExplicit_mark name s

theorem get?_introduce_self (name : String) (value : Value) (s : Settings) :
    (s.introduce name value).get? name = some value := by
  simp [get?, introduce, Keyed.find?_insert_self]

theorem write_of_differs (name : String) (value : Value) (s : Settings)
    (h : s.differs name value = true) :
    s.write name value = (true, (s.mark name).introduce name value) := by
  simp [write, h]

theorem write_of_same (name : String) (value : Value) (s : Settings)
    (h : s.differs name value = false) : s.write name value = (false, s.mark name) := by
  simp [write, h]

end Settings
end SpanCapture
