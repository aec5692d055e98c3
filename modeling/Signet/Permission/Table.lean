import Signet.Dict
import Signet.Error
import Signet.Permission

/-! Names of capabilities. Any client may ask for those of the ordinary side; those of the privileged
side count only for callers that say so. -/

namespace Signet.Permission

/-- Permissions by name, on two sides. -/
structure Table where
  ordinary : Dict Permission
  privileged : Dict Permission

namespace Table

/-- The names of the built-in capabilities. -/
def standard : Table where
  ordinary := Dict.ofList [("create_account", createAccount), ("read_account", readAccount),
    ("update_account", updateAccount), ("delete_account", deleteAccount),
    ("upload_image", uploadImage), ("read_fortune", readFortune), ("search_graph", searchGraph)]
  privileged := Dict.ofList [("grant_permission", grantPermission),
    ("revoke_session", revokeSession)]

/-- The set that a name stands for; the ordinary side comes first. -/
def find? (table : Table) (includePrivileged : Bool) (name : String) : Option Permission :=
  (table.ordinary.find? name).or
    (if includePrivileged then table.privileged.find? name else none)

/-- The union of `resolved` and the sets that the names stand for; the first name that stands for
none is the error. -/
def resolveFrom (table : Table) (includePrivileged : Bool) (resolved : Permission) :
    List String → Except AuthError Permission
  | [] => .ok resolved
  | name :: rest =>
    match table.find? includePrivileged name with
    | some found => table.resolveFrom includePrivileged (resolved ||| found) rest
    | none => .error (.unrecognizedPermission name)

/-- The union of the sets that the names stand for. -/
def resolve (table : Table) (names : List String) (includePrivileged : Bool) :
    Except AuthError Permission :=
  table.resolveFrom includePrivileged empty names

/-- A name that stands for exactly this set, or the set as a decimal number. -/
def describe (table : Table) (permission : Permission) : String :=
  match (table.ordinary.toList ++ table.privileged.toList).find? (·.2 = permission) with
  | some entry => entry.1
  | none => permission.text

end Table
end Signet.Permission
