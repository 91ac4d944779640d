/-!
# Observability — the filter of the log

A level alone applies to the gateway and to its HTTP layer; a text with
an equals sign or a comma is a filter already.
-/

namespace ApiGateway

namespace Observability

/-- The parts of the program that a level alone applies to. -/
def loggedParts : List String := ["microgateway", "tower_http"]

/-- The filter directive of a level. -/
def filterDirective (level : String) : String :=
  if level.toList.any fun c => c = '=' || c = ',' then level
  else String.intercalate "," (loggedParts.map fun p => p ++ "=" ++ level)

end Observability

end ApiGateway
