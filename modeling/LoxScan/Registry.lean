/-!
# Registries

Values known by name, where assigning a name again replaces its value.

## Main Definitions

* `Registry` — values by name
* `Registry.find?`, `Registry.assign`, `Registry.forget`
-/

namespace LoxScan

/-- Values by name.  Of several values with one name the first counts. -/
abbrev Registry (α : Type) := List (String × α)

namespace Registry

variable {α : Type}

/-- The value of a name. -/
def find? (registry : Registry α) (name : String) : Option α := registry.lookup name

/-- The registry in which a name has a new value. -/
def assign (registry : Registry α) (name : String) (value : α) : Registry α :=
  (name, value) :: registry

/-- The registry in which a name has no value. -/
def forget (registry : Registry α) (name : String) : Registry α :=
  registry.filter (·.1 ≠ name)

@[simp] theorem find?_assign_self (registry : Registry α) (name : String) (value : α) :
    (registry.assign name value).find? name = some value := by
  simp [find?, assign]

theorem find?_assign_of_ne (registry : Registry α) {name other : String} (value : α)
    (h : other ≠ name) : (registry.assign name value).find? other = registry.find? other := by
  have differ : (other == name) = false := by simpa using h
  simp only [find?, assign, List.lookup_cons, differ]

end Registry

end LoxScan
