import DesignProps.Key

/-!
# Notices

Degraded input is worked on and noted down; nothing here stops the work.
-/

set_option autoImplicit false

namespace DesignProps

inductive Notice
  | unrecognizedType (type : String) (key : Key)
  | undefinedProperty (key : Key)
  | unresolvedInstance (id : String)
  | foreignMain (main id : String)
  | unknownNode (id : String)
  | otherExtension (path : String)
  | otherContentType (url contentType : String)
  deriving DecidableEq, Repr

def Notice.message : Notice → String
  | .unrecognizedType type key =>
      "Unrecognized property type " ++ Text.quoted type ++ " for key " ++ key.shown
  | .undefinedProperty key => "No definition for property " ++ key.shown ++ "; treating it as text"
  | .unresolvedInstance id => "Instance " ++ id ++ " has no resolvable main component"
  | .foreignMain main id => "Main component " ++ main ++ " of " ++ id ++ " is not part of the document"
  | .unknownNode id => "Node " ++ id ++ " not found"
  | .otherExtension path => "File does not have .json extension: " ++ path
  | .otherContentType url contentType =>
      "URL " ++ url ++ " does not have JSON content type: " ++ contentType

end DesignProps
