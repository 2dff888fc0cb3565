import Gatehouse.Config.Settings
import Gatehouse.Route.Table

/-!
# The gateway's table

The services of the settings as targets: authentication, tasks, and the frontend as the catch-all.
-/

namespace Gatehouse.Route

def Table.ofServices (services : Config.Services) : Except RouteError Table := do
  let auth ← Target.create "auth" "/api/auth" services.authUrl
  let tasks ← Target.create "tasks" "/api/tasks" services.taskUrl
  let frontend ← Target.create "frontend" "/" services.catchAllUrl
  Table.ofTargets [auth, tasks, frontend]

end Gatehouse.Route
