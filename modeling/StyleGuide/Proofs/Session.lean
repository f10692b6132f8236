import Mathlib.Data.List.Forall2
import StyleGuide.Proofs.Lifecycle
import StyleGuide.Proofs.Wire
import StyleGuide.Server.Session

namespace StyleGuide

namespace Rpc

end Rpc

namespace Server

open Rpc

variable (world : Nat → World) (s : Server) (w : World)

end Server

end StyleGuide
