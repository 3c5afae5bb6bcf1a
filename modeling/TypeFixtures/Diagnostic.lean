/-!
# Diagnostics

Every level of an error ends with a mark for the place that raised it.  Places are not kept, so the
mark is always the same.
-/

namespace TypeFixtures.Diagnostic

/-- Close one level of an error's text with its place mark. -/
def close (text : String) : String :=
  text ++ " (at <loc>)"

end TypeFixtures.Diagnostic
