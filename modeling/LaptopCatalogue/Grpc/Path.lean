/-!
# Paths of calls

A call goes to a path that names a service and a method: `/package.Service/Method`.
-/

namespace LaptopCatalogue.Grpc

/-- What stands for a missing part of a path. -/
def unknownPart : String := "unknown"

/-- A part of a path, where nothing counts as unknown. -/
def partOrUnknown (cs : List Char) : String :=
  if cs = [] then unknownPart else String.ofList cs

/-- The service and the method of a path: behind any slashes in front, what stands before the next
slash and everything behind it. -/
def splitPath (path : String) : String × String :=
  let inner := path.toList.dropWhile (· = '/')
  let service := inner.takeWhile (· ≠ '/')
  let method := (inner.dropWhile (· ≠ '/')).drop 1
  (partOrUnknown service, partOrUnknown method)

end LaptopCatalogue.Grpc
