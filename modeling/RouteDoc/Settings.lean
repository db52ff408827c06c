/-!
# Settings of a document
-/

namespace RouteDoc

structure Settings where
  title : String := "Your API"
  description : String := ""
  version : String := "v1"
  baseUri : String := "http://localhost/\x7bversion\x7d"
  mediaType : String := "application/json"
  deriving DecidableEq, Inhabited

end RouteDoc
