/-!
# The version

The version of this library, which is that of the next release.
-/

namespace NumberFeed

/-- The version. -/
def version : String := "0.1.dev0"

end NumberFeed
