/-! Tables of code points. A range holds every code point between its ends, a run every one or every
second one, and a shift moves a run by a fixed distance. -/
namespace BotTypings.Text

structure Range where
  first : Nat
  last : Nat

structure Run where
  first : Nat
  last : Nat
  step : Nat

structure Shift where
  first : Nat
  last : Nat
  step : Nat
  image : Nat

def Range.holds (r : Range) (c : Char) : Bool :=
  r.first ≤ c.toNat && c.toNat ≤ r.last

def Run.holds (r : Run) (c : Char) : Bool :=
  r.first ≤ c.toNat && c.toNat ≤ r.last && (c.toNat - r.first) % r.step == 0

def Shift.holds (s : Shift) (c : Char) : Bool :=
  Run.holds ⟨s.first, s.last, s.step⟩ c

def Shift.move (s : Shift) (c : Char) : Char :=
  Char.ofNat (c.toNat - s.first + s.image)

def within (ranges : Array Range) (c : Char) : Bool :=
  ranges.any (·.holds c)

/-- The image of a character under the first shift that holds it; other characters stay. -/
def shifted (shifts : Array Shift) (c : Char) : Char :=
  match shifts.find? (·.holds c) with
  | some s => s.move c
  | none => c

end BotTypings.Text
