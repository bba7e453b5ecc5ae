import DocQuery.Container

/-!
# Errors of a catalog
-/

namespace DocQuery.Catalog

inductive Error where
  | conflict (container : Container) (id : String)
  | notFound (what : String)
  | unsupportedContainer (container : Container)
  /-- No definite answer arrived; the request may have taken effect or not. -/
  | transport (cause : String)
  | rejected (reason : String)
deriving DecidableEq, Repr

namespace Error

def message : Error → String
  | .conflict container id => "Function `" ++ id ++ "` already exists in " ++ container.display
  | .notFound what => "Not found: " ++ what
  | .unsupportedContainer container =>
    container.display ++ " cannot host user-defined functions"
  | .transport cause => "Transport error: " ++ cause
  | .rejected reason => "Request rejected: " ++ reason

def isConflict : Error → Bool
  | .conflict .. => true
  | _ => false

/-- Whether another try may have a different end. -/
def isTransient : Error → Bool
  | .transport _ => true
  | _ => false

end Error
end DocQuery.Catalog
