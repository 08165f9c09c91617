import ResourceDispatch.Text.Quoted

namespace ResourceDispatch.Registry

inductive MappingError where
  | invalidMediaType (media : String)
  | unknownResource (template : String)
deriving DecidableEq, Repr

namespace MappingError

def message : MappingError → String
  | invalidMediaType media =>
    s!"Invalid argument. Not a valid MIME type format type/subtype: {media}"
  | unknownResource template =>
    s!"No resource mapped to path template: {Text.quoted template}"

end MappingError

end ResourceDispatch.Registry
