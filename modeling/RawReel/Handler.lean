import RawReel.Block
import RawReel.Diagnostic

/-!
Handlers receive the blocks of a recording one by one. A handler keeps a state from block to block
and may reject a block.
-/

namespace RawReel

/-- The handler after a block, and whether it accepted it. -/
structure Handled (η : Type) where
  handler : η
  outcome : Except Failure Unit
  log : Log

class BlockHandler (η : Type) where
  handle : η → Block → Handled η

/-- Drops every block. -/
structure NullHandler where
  deriving DecidableEq

instance : BlockHandler NullHandler where
  handle handler _ := ⟨handler, .ok (), []⟩

/-- Gives a block to a handler. -/
def dispatch {η : Type} [BlockHandler η] (handler : η) (header : BlockHeader)
    (buffer : FrameBuffer) (length : Nat) : Handled η :=
  let handled := BlockHandler.handle handler ⟨header, buffer, 0, length⟩
  { handled with log := .dispatching header.tag length :: handled.log }

end RawReel
