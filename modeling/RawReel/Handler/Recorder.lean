import RawReel.Handler

/-!
A handler that keeps every block it is given. It can be told to reject some of them.
-/

namespace RawReel

/-- Which block to reject: the one at a position, counted from zero, or every one of a kind. -/
inductive Selector
  | position (n : Nat)
  | tag (text : String)
  deriving DecidableEq

structure Rejection where
  selector : Selector
  failure : Failure
  deriving DecidableEq

namespace Rejection

def selects (r : Rejection) (position : Nat) (tag : BlockTag) : Bool :=
  match r.selector with
  | .position n => n == position
  | .tag text => text == tag.text

end Rejection

structure Recorder where
  blocks : Array Block
  /-- Of the rejections that select a block, the first counts. -/
  rejections : List Rejection

namespace Recorder

def empty : Recorder := ⟨#[], []⟩

instance : BlockHandler Recorder where
  handle recorder block :=
    let position := recorder.blocks.size
    let kept := { recorder with blocks := recorder.blocks.push block }
    match recorder.rejections.find? (·.selects position block.tag) with
    | some rejection => ⟨kept, .error rejection.failure, []⟩
    | none => ⟨kept, .ok (), []⟩

end Recorder

end RawReel
