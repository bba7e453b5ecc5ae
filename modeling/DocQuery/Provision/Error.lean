import DocQuery.Catalog.Error

/-!
# Errors of provisioning
-/

namespace DocQuery.Provision

inductive Error where
  | list (container : Container) (cause : Catalog.Error)
  | create (container : Container) (id : String) (cause : Catalog.Error)
  | delete (container : Container) (id : String) (cause : Catalog.Error)
  /-- Functions are needed in a container that holds none. -/
  | unsupportedContainer (container : Container) (missing : List String)
deriving DecidableEq, Repr

def Error.message : Error → String
  | .list container cause =>
    "Failed to list functions in " ++ container.display ++ ": " ++ cause.message
  | .create container id cause =>
    "Failed to create function `" ++ id ++ "` in " ++ container.display ++ ": " ++ cause.message
  | .delete container id cause =>
    "Failed to delete function `" ++ id ++ "` in " ++ container.display ++ ": " ++ cause.message
  | .unsupportedContainer container missing =>
    container.display ++ " cannot host user-defined functions (required: " ++
      ", ".intercalate missing ++ ")"

end DocQuery.Provision
