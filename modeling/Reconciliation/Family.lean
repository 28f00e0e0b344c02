import Reconciliation.Json.Decoder
import Reconciliation.Text.Blank

/-!
# Families of payment methods

Payment methods come in families such as `visa` or `sepadirectdebit`. Blanks around a family's name and the case of
its ASCII letters do not matter.
-/

namespace Reconciliation

/-- A family, by its name without blanks around it and in lower case. -/
structure Family where
  name : String
  normal : Text.lower (Text.trim name) = name
  deriving Repr, DecidableEq

namespace Family

/-- The family that a text names. -/
def ofText (s : String) : Family := ⟨Text.lower (Text.trim s), Text.lower_trim_lower_trim s⟩

instance : Inhabited Family := ⟨ofText ""⟩

theorem eq_iff {f g : Family} : f = g ↔ f.name = g.name := by
  obtain ⟨name, _⟩ := f
  obtain ⟨other, _⟩ := g
  rw [mk.injEq]

def decoder : Json.Decoder Family := Json.Decoder.string.map ofText

def json (f : Family) : Json.Value := .string f.name

end Family
end Reconciliation
