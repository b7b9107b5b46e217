import SchemaMerge.NameMap
import SchemaMerge.Naming.Rule

/-!
The conventions that apply without configuration. They know the names of a web interface: actions on
events, users, sessions and passkeys, listings, and requests on many things at once.
-/

namespace SchemaMerge.Naming

open Text (afterStart? beforeEnd? startsWith endsWith)

/-- What stands between a beginning and an ending that do not overlap. -/
def between? (start ending s : String) : Option String :=
  (afterStart? start s).bind (beforeEnd? ending)

/-- `BulkAll*`, `Restart*`, `ResetNodeTraffic` and `(Add|Remove)Users(To|From)*`, each followed by
`Response`. -/
def isEventAction (stem : String) : Bool :=
  match beforeEnd? "Response" stem with
  | none => false
  | some action =>
      startsWith "BulkAll" action || startsWith "Restart" action ||
        action == "ResetNodeTraffic" ||
        match (afterStart? "Add" action <|> afterStart? "Remove" action) with
        | none => false
        | some rest =>
            ["UsersTo", "UsersFrom"].any fun start =>
              match afterStart? start rest with
              | some target => !target.isEmpty
              | none => false

/-- `Delete*Response`. -/
def isDeleteResponse (stem : String) : Bool :=
  (between? "Delete" "Response" stem).isSome

/-- `Bulk(Delete|Reset|Revoke|Update)Users*Response`. -/
def isBulkUserAction (stem : String) : Bool :=
  match between? "Bulk" "Response" stem with
  | none => false
  | some action =>
      (["Delete", "Reset", "Revoke", "Update"].filterMap fun verb => afterStart? verb action).any
        (startsWith "Users")

/-- A response to logging in, in one of several ways. -/
def isAuthEntry (stem : String) : Bool :=
  match beforeEnd? "Response" stem with
  | none => false
  | some entry =>
      ["Login", "Register", "TelegramCallback", "VerifyPasskeyAuthentication"].contains entry ||
        startsWith "OAuth2" entry

/-- What follows the ceremony in the name of a passkey schema. -/
def afterCeremony? (rest : String) : Option String :=
  afterStart? "Authentication" rest <|> afterStart? "Registration" rest

/-- `(Get|Verify)Passkey(Authentication|Registration)[Options][Response]`, and with `Verify` also
any name that goes on with `Request`. -/
def isPasskeyOptions (stem : String) : Bool :=
  let found :=
    match afterStart? "GetPasskey" stem with
    | some rest => some (rest, false)
    | none => (afterStart? "VerifyPasskey" stem).map fun rest => (rest, true)
  match found with
  | none => false
  | some (rest, verify) =>
      match afterCeremony? rest with
      | none => false
      | some rest =>
          if verify && startsWith "Request" rest then true
          else
            let rest := (afterStart? "Options" rest).getD rest
            rest.isEmpty || rest == "Response"

/-- `(Create|Update|Get)User[By*]Response`. -/
def isUserCrud (stem : String) : Bool :=
  match beforeEnd? "Response" stem with
  | none => false
  | some action =>
      (["Create", "Update", "Get"].filterMap fun verb => afterStart? verb action).any fun rest =>
        rest == "User" || startsWith "UserBy" rest

/-- The entity that `GetAll*Response` lists. -/
def listedEntity? (stem : String) : Option String :=
  (between? "GetAll" "Response" stem).filter fun entity => !entity.isEmpty

def isListing (stem : String) : Bool :=
  (listedEntity? stem).isSome

/-- A name of more than three bytes without a single `s` at its end. -/
def singular (entity : String) : String :=
  if 3 < entity.utf8ByteSize ∧ endsWith "s" entity ∧ ¬ endsWith "ss" entity then
    String.ofList entity.toList.dropLast
  else entity

/-- How often each entity is listed, in the singular. -/
def entityCounts (stems : List String) : NameMap Nat :=
  (stems.filterMap listedEntity?).foldl (fun counts entity =>
    let entity := singular entity
    counts.insert entity (((counts.get? entity).getD 0) + 1)) .empty

/-- The entity that is listed most often, and of several the least. -/
def commonestEntity (counts : NameMap Nat) : String :=
  match counts.entries with
  | [] => ""
  | first :: rest =>
      (rest.foldl (fun best entry => if best.2 < entry.2 then entry else best) first).1

/-- `<entity>ListResponse` for the entity that is listed most often. -/
def listingName (stems : List String) : String :=
  commonestEntity (entityCounts stems) ++ "ListResponse"

/-- `Reorder*Request`, where the star stands for at least one character. -/
def isReorderRequest (stem : String) : Bool :=
  match between? "Reorder" "Request" stem with
  | some entity => !entity.isEmpty
  | none => false

/-- `Bulk(Delete|Disable|Enable|Reset|Revoke)*Request`. -/
def isBulkUuidsRequest (stem : String) : Bool :=
  match between? "Bulk" "Request" stem with
  | none => false
  | some action =>
      ["Delete", "Disable", "Enable", "Reset", "Revoke"].any fun verb => startsWith verb action

/-- The conventions in the order in which they are tried. -/
def conventions : NamingTable :=
  [.fixed "event action" isEventAction "EventResponse",
    .fixed "delete response" isDeleteResponse "DeleteResponse",
    .fixed "bulk user action" isBulkUserAction "BulkActionResponse",
    .fixed "auth entry" isAuthEntry "TokenResponse",
    .fixed "passkey options" isPasskeyOptions "PasskeyOptions",
    .fixed "user crud" isUserCrud "UserResponse",
    ⟨"listing", isListing, listingName⟩,
    .fixed "reorder request" isReorderRequest "ReorderRequest",
    .fixed "bulk uuids request" isBulkUuidsRequest "BulkUuidsRequest"]

/-- The configured rules, and after them the conventions. Fails at the first pattern that cannot be
read. -/
def table? (configs : List RuleConfig) : Except Error NamingTable := do
  let configured ← configs.mapM NamingRule.ofConfig?
  return configured ++ conventions

end SchemaMerge.Naming
