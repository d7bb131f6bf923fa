/-!
# Limits

* `limited` : the first items of a list. A negative limit leaves out items at the end instead.
-/

namespace ScriptAudit

/-- The items of a list up to a limit; a negative limit is the number of items left out at the
end, its sign aside. -/
def limited {α : Type} (limit : Int) (items : List α) : List α :=
  if limit < 0 then items.take (items.length - limit.natAbs) else items.take limit.toNat

end ScriptAudit
