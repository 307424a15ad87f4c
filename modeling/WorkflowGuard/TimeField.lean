/-!
# Fields computed from time

Two field names are reserved. They stand for a number of days, which the ticket's timestamps
and the present instant determine, and hide a custom field of the same name.
-/

namespace WorkflowGuard

/-- A field computed from the timestamps of a ticket. -/
inductive TimeField where
  /-- Days from now to the completion target. -/
  | daysUntilBreach
  /-- Days from the creation to now. -/
  | ageDays
  deriving DecidableEq, Repr

namespace TimeField

def name : TimeField → String
  | daysUntilBreach => "days_until_breach"
  | ageDays => "age_days"

/-- The field with exactly the given name. -/
def ofName? (text : String) : Option TimeField :=
  if text = daysUntilBreach.name then some daysUntilBreach
  else if text = ageDays.name then some ageDays
  else none

def label : TimeField → String
  | daysUntilBreach => "DaysUntilBreach"
  | ageDays => "AgeDays"

theorem ofName?_eq_some_iff {text : String} {field : TimeField} :
    ofName? text = some field ↔ text = field.name := by
  unfold ofName?
  cases field <;> grind [name]

end TimeField

end WorkflowGuard
