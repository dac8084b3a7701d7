/-!
Two measures of text. Editors place text by UTF-16 code units; keyword lengths
are reported in UTF-8 bytes.
-/

namespace Layerfile.Text

/-- A character beyond the basic plane takes a surrogate pair. -/
def unitWidth (c : Char) : Nat :=
  if c.toNat < 0x10000 then 1 else 2

/-- Length in UTF-16 code units. -/
def units : List Char → Nat
  | [] => 0
  | c :: text => unitWidth c + units text

/-- Length in UTF-8 bytes. -/
def bytes : List Char → Nat
  | [] => 0
  | c :: text => c.utf8Size + bytes text

theorem unitWidth_pos (c : Char) : 0 < unitWidth c := by
  unfold unitWidth
  split <;> decide

@[simp] theorem units_nil : units [] = 0 := rfl

@[simp] theorem units_cons (c : Char) (text : List Char) :
    units (c :: text) = unitWidth c + units text := rfl

@[simp] theorem units_append (a b : List Char) : units (a ++ b) = units a + units b := by
  induction a with
  | nil => simp
  | cons c a ih => simp [ih, Nat.add_assoc]

theorem units_eq_zero_iff (text : List Char) : units text = 0 ↔ text = [] := by
  cases text with
  | nil => simp
  | cons c text =>
    have := unitWidth_pos c
    simp
    omega

end Layerfile.Text
