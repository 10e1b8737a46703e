/-!
# Documents as they are shown
-/

namespace PagePress

/-- A document made for a page. What cannot be sent stands in it for broken pairs in its style. -/
structure Document where
  html : String
  isSendable : Bool := true
deriving DecidableEq, Repr

end PagePress
