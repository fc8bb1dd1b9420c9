import CloudSynth.Access.Grant

/-!
# Auth actions

The operations on a user pool that other resources can be granted, and what each of them allows.
-/

namespace CloudSynth

/-- Operations on a user pool. -/
inductive AuthAction
  | addUserToGroup
  | createUser
  | deleteUser
  | deleteUserAttributes
  | disableUser
  | enableUser
  | forgetDevice
  | getDevice
  | getUser
  | listUsers
  | listUsersInGroup
  | listGroupsForUser
  | listDevices
  | manageGroupMembership
  | manageGroups
  | manageUserDevices
  | managePasswordRecovery
  | removeUserFromGroup
  | resetUserPassword
  | setUserMfaPreference
  | setUserPassword
  | setUserSettings
  | updateDeviceStatus
  | updateUserAttributes
  deriving DecidableEq, Repr

namespace AuthAction

/-- Every action in order. -/
def every : List AuthAction :=
  [addUserToGroup, createUser, deleteUser, deleteUserAttributes, disableUser, enableUser,
   forgetDevice, getDevice, getUser, listUsers, listUsersInGroup, listGroupsForUser, listDevices,
   manageGroupMembership, manageGroups, manageUserDevices, managePasswordRecovery,
   removeUserFromGroup, resetUserPassword, setUserMfaPreference, setUserPassword, setUserSettings,
   updateDeviceStatus, updateUserAttributes]

/-- The name that users write. -/
def name : AuthAction → String
  | addUserToGroup => "addUserToGroup"
  | createUser => "createUser"
  | deleteUser => "deleteUser"
  | deleteUserAttributes => "deleteUserAttributes"
  | disableUser => "disableUser"
  | enableUser => "enableUser"
  | forgetDevice => "forgetDevice"
  | getDevice => "getDevice"
  | getUser => "getUser"
  | listUsers => "listUsers"
  | listUsersInGroup => "listUsersInGroup"
  | listGroupsForUser => "listGroupsForUser"
  | listDevices => "listDevices"
  | manageGroupMembership => "manageGroupMembership"
  | manageGroups => "manageGroups"
  | manageUserDevices => "manageUserDevices"
  | managePasswordRecovery => "managePasswordRecovery"
  | removeUserFromGroup => "removeUserFromGroup"
  | resetUserPassword => "resetUserPassword"
  | setUserMfaPreference => "setUserMfaPreference"
  | setUserPassword => "setUserPassword"
  | setUserSettings => "setUserSettings"
  | updateDeviceStatus => "updateDeviceStatus"
  | updateUserAttributes => "updateUserAttributes"

/-- The identity management actions that the operation needs. -/
def iamActions : AuthAction → List String
  | addUserToGroup => ["cognito-idp:AdminAddUserToGroup"]
  | createUser => ["cognito-idp:AdminCreateUser"]
  | deleteUser => ["cognito-idp:AdminDeleteUser"]
  | deleteUserAttributes => ["cognito-idp:AdminDeleteUserAttributes"]
  | disableUser => ["cognito-idp:AdminDisableUser"]
  | enableUser => ["cognito-idp:AdminEnableUser"]
  | forgetDevice => ["cognito-idp:AdminForgetDevice"]
  | getDevice => ["cognito-idp:AdminGetDevice"]
  | getUser => ["cognito-idp:AdminGetUser"]
  | listUsers => ["cognito-idp:ListUsers"]
  | listUsersInGroup => ["cognito-idp:ListUsersInGroup"]
  | listGroupsForUser => ["cognito-idp:AdminListGroupsForUser"]
  | listDevices => ["cognito-idp:AdminListDevices"]
  | manageGroupMembership =>
    ["cognito-idp:AdminAddUserToGroup", "cognito-idp:AdminRemoveUserFromGroup"]
  | manageGroups =>
    ["cognito-idp:GetGroup", "cognito-idp:ListGroups", "cognito-idp:CreateGroup",
     "cognito-idp:DeleteGroup", "cognito-idp:UpdateGroup"]
  | manageUserDevices =>
    ["cognito-idp:AdminForgetDevice", "cognito-idp:AdminGetDevice",
     "cognito-idp:AdminListDevices", "cognito-idp:AdminUpdateDeviceStatus"]
  | managePasswordRecovery =>
    ["cognito-idp:AdminResetUserPassword", "cognito-idp:AdminSetUserPassword"]
  | removeUserFromGroup => ["cognito-idp:AdminRemoveUserFromGroup"]
  | resetUserPassword => ["cognito-idp:AdminResetUserPassword"]
  | setUserMfaPreference => ["cognito-idp:AdminSetUserMFAPreference"]
  | setUserPassword => ["cognito-idp:AdminSetUserPassword"]
  | setUserSettings => ["cognito-idp:AdminSetUserSettings"]
  | updateDeviceStatus => ["cognito-idp:AdminUpdateDeviceStatus"]
  | updateUserAttributes => ["cognito-idp:AdminUpdateUserAttributes"]

instance : ActionVocabulary AuthAction where
  defaults := [getUser]
  name := name

/-- The action with the given name. -/
def ofName? (name : String) : Option AuthAction := every.find? (·.name = name)

/-- The failure to read a name. -/
def unknown (name : String) : String := "unknown auth action `" ++ name ++ "`"

/-- What the action allows on a user pool. -/
def statements (userPoolArn : String) (action : AuthAction) : List Statement :=
  [.allow action.iamActions [userPoolArn]]

end AuthAction

end CloudSynth
