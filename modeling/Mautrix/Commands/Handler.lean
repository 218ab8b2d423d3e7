import Mautrix.Backfill.Types

/-!
# Mautrix.Commands.Handler — the requirement checks of `FullHandler.Run`

A bridge command declares what it needs: a bridge admin, a user allowed to log in, a room
power level for some event type, a portal room, a default login. `FullHandler.Run` checks
these in that order and either calls the command's `Func` or replies with a refusal. Reading
the room power levels can fail; then it also replies that it could not read them.

`Run` is a chain of five guards, with no loop and no state of its own: it is modelled as the
list of what it does (`Effect`), replies and the call of `Func`, in order.
-/

namespace Mautrix.Commands

open Mautrix.Backfill (Portal UserLogin)

/-- `bridgeconfig.Permissions`, the two flags `Run` reads. -/
structure Permissions where
  login : Bool
  admin : Bool
deriving DecidableEq, Repr, Inhabited

/-- `bridgev2.User`, with what `Run` reads: the Matrix ID, the permissions, and the login
`GetDefaultLogin` returns (nil when there is none). -/
structure User where
  mxid : UserID
  permissions : Permissions
  defaultLogin : Option UserLogin

/-- The power levels of a room (`event.PowerLevelsEventContent`) through the two lookups
`userHasRoomPermission` makes, `GetUserLevel` and `GetEventLevel`, defined outside this
file. -/
structure PowerLevels where
  getUserLevel : UserID → Int
  getEventLevel : EventType → Int

/-- `commands.Event`, with what `Run` reads: the user, the portal of the room (nil outside a
portal), the room, and `ce.Bridge.Matrix.GetPowerLevels`. -/
structure Event where
  user : User
  portal : Option Portal
  roomID : RoomID
  getPowerLevels : RoomID → Except String PowerLevels

/-- `commands.FullHandler`, with the requirement flags `Run` reads; `Func`, the command itself,
is what `Run` calls. -/
structure FullHandler where
  requiresAdmin : Bool
  requiresPortal : Bool
  requiresLogin : Bool
  requiresEventLevel : EventType
  requiresLoginPermission : Bool
deriving DecidableEq, Repr, Inhabited

/-- What `Run` does, in order: reply to the command with a text (`ce.Reply`), or call the
handler's `Func`. -/
inductive Effect where
  | reply (text : String)
  | func
deriving DecidableEq, Repr

/-- `fh.userHasRoomPermission(ce)`: whether the user's level reaches the level of
`RequiresEventLevel`, with the reply sent when the power levels cannot be read. -/
def FullHandler.userHasRoomPermission (fh : FullHandler) (ce : Event) : Bool × List Effect :=
  match ce.getPowerLevels ce.roomID with
  | .error _ =>
    (false,
      [.reply "Failed to get room power levels to see if you\x27re allowed to use that command"])
  | .ok levels =>
    (decide (levels.getUserLevel ce.user.mxid ≥ levels.getEventLevel fh.requiresEventLevel), [])

/-- `fh.Run(ce)`. The third test calls `userHasRoomPermission` only when the two operands
before it hold (Go's `&&` stops at the first false one), and the reply that call may send
comes before the reply of the branch taken. -/
def FullHandler.run (fh : FullHandler) (ce : Event) : List Effect :=
  if fh.requiresAdmin && !ce.user.permissions.admin then
    [.reply "That command is limited to bridge administrators."]
  else if fh.requiresLoginPermission && !ce.user.permissions.login then
    [.reply "You do not have permissions to log into this bridge."]
  else
    let (permitted, notes) :=
      if fh.requiresEventLevel.type != "" && !ce.user.permissions.admin then
        fh.userHasRoomPermission ce
      else (true, [])
    notes ++
      if !permitted then [.reply "That command requires room admin rights."]
      else if fh.requiresPortal && ce.portal.isNone then
        [.reply "That command can only be ran in portal rooms."]
      else if fh.requiresLogin && ce.user.defaultLogin.isNone then
        [.reply "That command requires you to be logged in."]
      else [.func]

end Mautrix.Commands
